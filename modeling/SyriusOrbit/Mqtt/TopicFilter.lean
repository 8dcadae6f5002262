import SyriusOrbit.Mqtt.EndPoint

/-!
# Topics and filters

The matching rules of MQTT, and the two descriptions of the topics of an endpoint: the filter that is subscribed,
and the parser that dispatch asks for the robot.  The parser is the inverse of the builder of topics
(`parseTopicContext_exact`), and it takes what the filter lets through if and only if the topic prefix has no
wildcard (`subscribed_parsed_iff`).
-/

namespace SyriusOrbit.Mqtt

open Vda5050

/-! ### The matching rules -/

/-- `+` fills a level and `#` the last one. -/
def ValidLevels : List (List Char) → Bool
  | [] => true
  | f :: fs => (if f = ['#'] then fs.isEmpty else f == ['+'] || !(f.contains '+' || f.contains '#')) && ValidLevels fs

/-- A filter that a subscription may have. -/
def ValidFilter (topicFilter : String) : Bool :=
  topicFilter != "" && decide (topicFilter.utf8ByteSize ≤ 65535) && !topicFilter.toList.contains '\x00' &&
    ValidLevels (levels topicFilter)

/-- `+` stands for one level and `#` for any number of levels. -/
def matchLevels : List (List Char) → List (List Char) → Bool
  | [], ls => ls.isEmpty
  | f :: fs, ls =>
    if f = ['#'] then fs.isEmpty
    else
      match ls with
      | [] => false
      | l :: ls => (f == l || f == ['+']) && matchLevels fs ls

/-- The topic matches the filter; no wildcard stands for the `$` of a topic that the broker reserves. -/
def topicMatches (topicFilter topic : String) : Bool :=
  (topicFilter.toList.head? == some '$') == (topic.toList.head? == some '$') &&
    matchLevels (levels topicFilter) (levels topic)

private theorem matchLevels_iff {fs ls : List (List Char)} (h : ['#'] ∉ fs) :
    matchLevels fs ls = true ↔ List.Forall₂ (fun f l => f = l ∨ f = ['+']) fs ls := by
  induction fs generalizing ls with
  | nil => simp [matchLevels]
  | cons f fs ih =>
    rw [List.mem_cons, not_or] at h
    cases ls with
    | nil => simp [matchLevels, Ne.symm h.1]
    | cons l ls => simp [matchLevels, Ne.symm h.1, ih h.2]

private theorem validLevels_append {fs gs : List (List Char)} (h : ValidLevels (fs ++ gs) = true) (hgs : gs ≠ []) :
    ∀ f ∈ fs, f = ['+'] ∨ '+' ∉ f ∧ '#' ∉ f := by
  induction fs with
  | nil => simp
  | cons f fs ih =>
    rw [List.cons_append, ValidLevels, Bool.and_eq_true] at h
    intro g hg
    rcases List.mem_cons.1 hg with rfl | hmem
    · have hfirst := h.1
      split at hfirst
      · simp [hgs] at hfirst
      · simpa using hfirst
    · exact ih h.2 g hmem

/-- The last levels agree, unless the filter ends in a wildcard. -/
private theorem matchLevels_last {fs ls : List (List Char)} {f l : List Char} (hf : f ≠ ['#'])
    (h : matchLevels (fs ++ [f]) (ls ++ [l]) = true) : f = l ∨ f = ['+'] := by
  induction fs generalizing ls with
  | nil =>
    cases ls with
    | nil => simpa [matchLevels, hf] using h
    | cons l' ls => simp [matchLevels, hf] at h
  | cons f' fs ih =>
    have hf' : f' ≠ ['#'] := by
      rintro rfl
      simp [matchLevels] at h
    cases ls with
    | nil =>
      have hrest : matchLevels (fs ++ [f]) [] = true := by
        simp only [List.cons_append, List.nil_append, matchLevels, if_neg hf', Bool.and_eq_true] at h
        exact h.2
      cases fs <;> simp [matchLevels, hf] at hrest
    | cons l' ls =>
      simp only [List.cons_append, matchLevels, if_neg hf', Bool.and_eq_true] at h
      exact ih h.2

/-! ### Levels of a topic -/

private theorem not_mem_of_mem_splitOn {c : Char} {l s : List Char} (h : l ∈ s.splitOn c) : c ∉ l := by
  induction s generalizing l with
  | nil => simp_all
  | cons d s ih =>
    rw [List.splitOn_cons_eq_if_modifyHead] at h
    split at h
    · rcases List.mem_cons.1 h with rfl | hmem
      · simp
      · exact ih hmem
    · next hne =>
      obtain ⟨l', ls, hsplit⟩ := List.exists_cons_of_ne_nil (List.splitOn_ne_nil c s)
      rw [hsplit, List.modifyHead_cons] at h
      rw [hsplit] at ih
      rcases List.mem_cons.1 h with rfl | hmem
      · rw [List.mem_cons, not_or]
        exact ⟨fun heq => hne (by simp [heq]), ih List.mem_cons_self⟩
      · exact ih (List.mem_cons_of_mem _ hmem)

/-- The levels of a topic that name the robot. -/
def robotLevels (topic : String) : List (List Char) := ((levels topic).drop 2).take 2

namespace VDA5050TopicContext

private theorem suffix_slash (t : MessageType) : '/' ∉ (suffix t).toList := by cases t <;> decide

private theorem suffix_wildcard (t : MessageType) : '+' ∉ (suffix t).toList ∧ '#' ∉ (suffix t).toList := by
  cases t <;> decide

/-! ### Parser and builder -/

theorem parseTopicContext_exact {pre : String} {template : VDA5050TopicContext}
    (hpre : parseTopicPrefix pre = some template) (t : MessageType) :
    pre = template.interfaceName ++ "/" ++ template.majorVersion ∧
    (∀ topic context, template.parseTopicContext topic (suffix t) = some context ↔
      ∃ m s : String, (m ≠ "" ∧ '/' ∉ m.toList) ∧ (s ≠ "" ∧ '/' ∉ s.toList) ∧
        topic = template.interfaceName ++ "/" ++ template.majorVersion ++ "/" ++ m ++ "/" ++ s ++ "/" ++ suffix t ∧
        context = ⟨template.interfaceName, template.majorVersion, m, s⟩) ∧
    (∀ topic context, template.parseTopicContext topic (suffix t) = some context →
      context.buildTopic (suffix t) = some topic) ∧
    ∀ context : VDA5050TopicContext, context.interfaceName = template.interfaceName →
      context.majorVersion = template.majorVersion →
      context.manufacturer ≠ "" ∧ '/' ∉ context.manufacturer.toList →
      context.serialNumber ≠ "" ∧ '/' ∉ context.serialNumber.toList →
      ∃ topic, context.buildTopic (suffix t) = some topic ∧
        template.parseTopicContext topic (suffix t) = some context := by
  have h := prefixOf_of_parseTopicPrefix hpre
  have hsuffix : suffix t ≠ "" := by cases t <;> simp [suffix]
  refine ⟨h.pre_eq, fun topic context => ?_, fun topic context hparse => ?_, fun context hi hv hm hs => ?_⟩
  · rw [parseTopicContext_eq_some_iff]
    constructor
    · rintro ⟨hi, hv, hm, hs, htopic⟩
      refine ⟨context.manufacturer, context.serialNumber, hm, hs, htopic, ?_⟩
      rw [← hi, ← hv]
    · rintro ⟨m, s, hm, hs, rfl, rfl⟩
      exact ⟨rfl, rfl, hm, hs, rfl⟩
  · exact (topicOf_of_parseTopicContext hparse).buildTopic h.interfaceName.1 h.majorVersion.1 hsuffix
  · have htopic : template.TopicOf context _ (suffix t) := ⟨hi, hv, hm, hs, rfl⟩
    exact ⟨_, htopic.buildTopic h.interfaceName.1 h.majorVersion.1 hsuffix, htopic.parseTopicContext⟩

theorem parseTopicContext_uagv :
    (⟨"uagv", "v3", "", ""⟩ : VDA5050TopicContext).parseTopicContext "uagv/v3/acme/7/order" "order" =
        some ⟨"uagv", "v3", "acme", "7"⟩ ∧
      (⟨"uagv", "v3", "", ""⟩ : VDA5050TopicContext).parseTopicContext "uagv/v3/acme/7/8/order" "order" = none := by
  have h := parseTopicContext_exact (show parseTopicPrefix "uagv/v3" = some ⟨"uagv", "v3", "", ""⟩ by decide) .order
  refine ⟨(h.2.1 _ _).2 ⟨"acme", "7", by decide, by decide, by decide, rfl⟩, by decide⟩

/-! ### Filter and parser -/

/-- What is subscribed is parsed, and what is parsed is subscribed. -/
def SubscribedParsed (template : VDA5050TopicContext) (t : MessageType) : Prop :=
  (∀ topic, ValidTopic topic → topicMatches (template.buildFilter (suffix t)) topic = true → [] ∉ robotLevels topic →
    (template.parseTopicContext topic (suffix t)).isSome) ∧
  ∀ topic, (template.parseTopicContext topic (suffix t)).isSome →
    topicMatches (template.buildFilter (suffix t)) topic = true

/-- The levels of a filter that may be subscribed: the wildcard for one level at most. -/
theorem PrefixOf.levels_buildFilter {template : VDA5050TopicContext} {pre : String} (h : template.PrefixOf pre)
    (t : MessageType) : levels (template.buildFilter (suffix t)) =
      [template.interfaceName.toList, template.majorVersion.toList, ['+'], ['+'], (suffix t).toList] := by
  rw [VDA5050TopicContext.levels_buildFilter, levels_eq_singleton h.interfaceName.2,
    levels_eq_singleton h.majorVersion.2, levels_eq_singleton (suffix_slash t)]
  rfl

theorem PrefixOf.levels_eq {template : VDA5050TopicContext} {pre : String} (h : template.PrefixOf pre) :
    levels pre = [template.interfaceName.toList, template.majorVersion.toList] := by
  rw [h.pre_eq, levels_append, levels_eq_singleton h.interfaceName.2, levels_eq_singleton h.majorVersion.2]
  rfl

/-- The levels of a valid filter before the suffix are the wildcard for one level or have no wildcard. -/
private theorem valid_levels {template : VDA5050TopicContext} {pre : String} {t : MessageType}
    (h : template.PrefixOf pre) (hfilter : ValidFilter (template.buildFilter (suffix t)) = true) :
    ∀ l ∈ levels pre, l = ['+'] ∨ '+' ∉ l ∧ '#' ∉ l := by
  rw [ValidFilter, Bool.and_eq_true, h.levels_buildFilter] at hfilter
  rw [h.levels_eq]
  have hrest : [['+'], ['+'], (suffix t).toList] ≠ [] := by simp
  exact validLevels_append hfilter.2 hrest

private theorem hash_not_mem {template : VDA5050TopicContext} {pre : String} {t : MessageType}
    (h : template.PrefixOf pre) (hfilter : ValidFilter (template.buildFilter (suffix t)) = true) :
    ['#'] ∉ levels (template.buildFilter (suffix t)) := by
  intro hmem
  have hvalid := valid_levels h hfilter
  rw [h.levels_eq] at hvalid
  rw [h.levels_buildFilter] at hmem
  have hsuffix := (suffix_wildcard t).2
  simp only [List.mem_cons, List.not_mem_nil, or_false] at hmem
  rcases hmem with hi | hv | hplus | hplus | hs
  · have := hvalid _ List.mem_cons_self
    simp [← hi] at this
  · have := hvalid template.majorVersion.toList (by simp)
    simp [← hv] at this
  · simp at hplus
  · simp at hplus
  · simp [← hs] at hsuffix

/-- A level of a topic that is not empty names a robot. -/
private theorem ofList_of_mem_levels (topic : String) {l : List Char} (hl : l ∈ levels topic) (hnil : l ≠ []) :
    String.ofList l ≠ "" ∧ '/' ∉ (String.ofList l).toList := by
  rw [Ne, String.ofList_eq_empty_iff, String.toList_ofList]
  exact ⟨hnil, not_mem_of_mem_splitOn hl⟩

/-- Without wildcards in the prefix, a topic that matches has the levels of the template. -/
private theorem topicOf_of_topicMatches {template : VDA5050TopicContext} {pre topic : String} {t : MessageType}
    (h : template.PrefixOf pre) (hfilter : ValidFilter (template.buildFilter (suffix t)) = true)
    (hplus : ['+'] ∉ levels pre) (hmatches : topicMatches (template.buildFilter (suffix t)) topic = true)
    (hrobot : [] ∉ robotLevels topic) : ∃ context, template.TopicOf context topic (suffix t) := by
  have hlevels := ((Bool.and_eq_true _ _).mp hmatches).2
  rw [matchLevels_iff (hash_not_mem h hfilter), h.levels_buildFilter] at hlevels
  rw [h.levels_eq] at hplus
  simp only [List.mem_cons, List.not_mem_nil, or_false, not_or] at hplus
  generalize hls : levels topic = ls at hlevels
  rcases hlevels with _ | ⟨hi, _ | ⟨hv, _ | ⟨-, _ | ⟨-, _ | ⟨hs, _ | _⟩⟩⟩⟩⟩
  next i v m n s =>
  obtain rfl : template.interfaceName.toList = i := hi.resolve_right (Ne.symm hplus.1)
  obtain rfl : template.majorVersion.toList = v := hv.resolve_right (Ne.symm hplus.2)
  have hsuffix : (suffix t).toList ≠ ['+'] := by
    intro hs
    have hwildcard := (suffix_wildcard t).1
    simp [hs] at hwildcard
  obtain rfl : (suffix t).toList = s := hs.resolve_right hsuffix
  rw [robotLevels, hls] at hrobot
  have hm := ofList_of_mem_levels topic (l := m) (by simp [hls]) fun hnil => hrobot (by simp [hnil])
  have hn := ofList_of_mem_levels topic (l := n) (by simp [hls]) fun hnil => hrobot (by simp [hnil])
  refine ⟨⟨template.interfaceName, template.majorVersion, .ofList m, .ofList n⟩, rfl, rfl, hm, hn, ?_⟩
  refine levels_injective ?_
  rw [hls]
  simp only [levels_append, levels_eq_singleton h.interfaceName.2, levels_eq_singleton h.majorVersion.2,
    levels_eq_singleton hm.2, levels_eq_singleton hn.2, levels_eq_singleton (suffix_slash t), String.toList_ofList]
  rfl

private theorem head?_append_eq {l s : List Char} (h : l ≠ []) : (l ++ s).head? = l.head? := by
  cases l with
  | nil => exact absurd rfl h
  | cons c l => rfl

private theorem topicMatches_of_topicOf {template context : VDA5050TopicContext} {pre topic : String} {t : MessageType}
    (h : template.PrefixOf pre) (hfilter : ValidFilter (template.buildFilter (suffix t)) = true)
    (htopic : template.TopicOf context topic (suffix t)) :
    topicMatches (template.buildFilter (suffix t)) topic = true := by
  have hnonempty : template.interfaceName.toList ≠ [] := by simpa using h.interfaceName.1
  have hhead : (template.buildFilter (suffix t)).toList.head? = topic.toList.head? := by
    rw [htopic.topic_eq, buildFilter]
    simp only [String.toList_append, List.append_assoc, head?_append_eq hnonempty]
  have hlevels := (matchLevels_iff (hash_not_mem h hfilter)).2 htopic.levelsMatch
  rw [topicMatches, hhead, hlevels]
  simp

/-- A level of the prefix as a level of a topic. -/
private def filled (l : String) : String := if l = "+" then "a" else l

private theorem filled_level {l : String} (h : l ≠ "" ∧ '/' ∉ l.toList)
    (hvalid : l.toList = ['+'] ∨ '+' ∉ l.toList ∧ '#' ∉ l.toList) :
    ('/' ∉ (filled l).toList ∧ '+' ∉ (filled l).toList ∧ '#' ∉ (filled l).toList) ∧
      (l.toList = (filled l).toList ∨ l.toList = ['+']) ∧ (filled l).toList ≠ [] ∧
      ((filled l).toList.head? = some '$' ↔ l.toList.head? = some '$') := by
  by_cases hplus : l = "+"
  · subst hplus
    decide
  · have hchars : l.toList ≠ ['+'] := fun hl => hplus (String.toList_injective hl)
    rw [filled, if_neg hplus]
    exact ⟨⟨h.2, hvalid.resolve_left hchars⟩, .inl rfl, by simpa using h.1, Iff.rfl⟩

/-- With a wildcard in the prefix, a topic that matches is not parsed. -/
private theorem exists_dropped {template : VDA5050TopicContext} {pre : String} {t : MessageType}
    (h : template.PrefixOf pre) (hfilter : ValidFilter (template.buildFilter (suffix t)) = true)
    (hplus : ['+'] ∈ levels pre) :
    ∃ topic, ValidTopic topic ∧ topicMatches (template.buildFilter (suffix t)) topic = true ∧ [] ∉ robotLevels topic ∧
      template.parseTopicContext topic (suffix t) = none := by
  have hvalid := valid_levels h hfilter
  rw [h.levels_eq] at hvalid hplus
  obtain ⟨⟨hislash, hiplus, hihash⟩, hi, hinonempty, hidollar⟩ := filled_level h.interfaceName (hvalid _ (by simp))
  obtain ⟨⟨hvslash, hvplus, hvhash⟩, hv, -, -⟩ := filled_level h.majorVersion (hvalid _ (by simp))
  let topic := filled template.interfaceName ++ "/" ++ filled template.majorVersion ++ "/" ++ "m" ++ "/" ++ "s" ++
    "/" ++ suffix t
  have hlevels : levels topic = [(filled template.interfaceName).toList, (filled template.majorVersion).toList, ['m'],
      ['s'], (suffix t).toList] := by
    have hm : levels "m" = [['m']] := rfl
    have hs : levels "s" = [['s']] := rfl
    simp only [topic, levels_append, levels_eq_singleton hislash, levels_eq_singleton hvslash, hm, hs,
      levels_eq_singleton (suffix_slash t)]
    rfl
  have hmatchlevels : matchLevels (levels (template.buildFilter (suffix t))) (levels topic) = true := by
    rw [matchLevels_iff (hash_not_mem h hfilter), h.levels_buildFilter, hlevels]
    exact .cons hi (.cons hv (.cons (.inr rfl) (.cons (.inr rfl) (.cons (.inl rfl) .nil))))
  have hhead : (template.buildFilter (suffix t)).toList.head? = some '$' ↔ topic.toList.head? = some '$' := by
    have hnonempty : template.interfaceName.toList ≠ [] := by simpa using h.interfaceName.1
    simp only [topic, buildFilter, String.toList_append, List.append_assoc, head?_append_eq hnonempty,
      head?_append_eq hinonempty]
    exact hidollar.symm
  refine ⟨topic, ?_, ?_, ?_, ?_⟩
  · obtain ⟨hsplus, hshash⟩ := suffix_wildcard t
    simp [ValidTopic, topic, *]
  · rw [topicMatches, hmatchlevels]
    by_cases hdollar : topic.toList.head? = some '$'
    · simp [hdollar, hhead.2 hdollar]
    · simp [hdollar, mt hhead.1 hdollar]
  · simp [robotLevels, hlevels]
  · rw [Option.eq_none_iff_forall_ne_some]
    intro context hparse
    have hparsed := (topicOf_of_parseTopicContext hparse).levels_eq
    rw [hlevels, levels_eq_singleton h.interfaceName.2, levels_eq_singleton h.majorVersion.2] at hparsed
    simp only [List.cons_append, List.nil_append, List.cons.injEq] at hparsed
    simp only [List.mem_cons, List.not_mem_nil, or_false] at hplus
    rcases hplus with hplus | hplus
    · rw [hparsed.1, ← hplus] at hiplus
      simp at hiplus
    · rw [hparsed.2.1, ← hplus] at hvplus
      simp at hvplus

theorem subscribed_parsed_iff {pre : String} {template : VDA5050TopicContext}
    (hpre : parseTopicPrefix pre = some template) (t : MessageType)
    (hfilter : ValidFilter (template.buildFilter (suffix t)) = true) :
    template.SubscribedParsed t ↔ ['+'] ∉ levels pre := by
  have h := prefixOf_of_parseTopicPrefix hpre
  constructor
  · intro hparsed hplus
    obtain ⟨topic, hvalid, hmatches, hrobot, hnone⟩ := exists_dropped h hfilter hplus
    have := hparsed.1 topic hvalid hmatches hrobot
    rw [hnone] at this
    simp at this
  · intro hplus
    refine ⟨fun topic _ hmatches hrobot => ?_, fun topic hparsed => ?_⟩
    · obtain ⟨context, htopic⟩ := topicOf_of_topicMatches h hfilter hplus hmatches hrobot
      rw [htopic.parseTopicContext]
      rfl
    · obtain ⟨context, hcontext⟩ := Option.isSome_iff_exists.1 hparsed
      exact topicMatches_of_topicOf h hfilter (topicOf_of_parseTopicContext hcontext)

theorem subscribed_parsed_uagv : (⟨"uagv", "v3", "", ""⟩ : VDA5050TopicContext).SubscribedParsed .state :=
  (subscribed_parsed_iff (show parseTopicPrefix "uagv/v3" = some _ by decide) .state (by decide)).2 (by decide)

/-- The state of a robot is subscribed and not parsed. -/
theorem not_subscribed_parsed_wildcard :
    parseTopicPrefix "+/v3" = some ⟨"+", "v3", "", ""⟩ ∧
      ValidFilter ((⟨"+", "v3", "", ""⟩ : VDA5050TopicContext).buildFilter (suffix .state)) = true ∧
      ValidTopic "uagv/v3/acme/7/state" ∧ topicMatches "+/v3/+/+/state" "uagv/v3/acme/7/state" = true ∧
      [] ∉ robotLevels "uagv/v3/acme/7/state" ∧
      ¬ (⟨"+", "v3", "", ""⟩ : VDA5050TopicContext).SubscribedParsed .state := by
  refine ⟨by decide, by decide, by decide, by decide, by decide, fun h => ?_⟩
  have := h.1 "uagv/v3/acme/7/state" (by decide) (by decide) (by decide)
  revert this
  decide

/-- A topic matches the filters of its own type only. -/
theorem TopicOf.type_eq {template template' context : VDA5050TopicContext} {topic : String} {t t' : MessageType}
    (h : template.TopicOf context topic (suffix t))
    (hmatches : topicMatches (template'.buildFilter (suffix t')) topic = true) : t' = t := by
  have hlevels := ((Bool.and_eq_true _ _).mp hmatches).2
  obtain ⟨hplus, hhash⟩ := suffix_wildcard t'
  rw [VDA5050TopicContext.levels_buildFilter, h.levels_eq, levels_eq_singleton (suffix_slash t),
    levels_eq_singleton (suffix_slash t')] at hlevels
  rcases matchLevels_last (by rintro heq; simp [heq] at hhash) hlevels with heq | heq
  · exact suffix_injective (String.toList_injective heq)
  · simp [heq] at hplus

end VDA5050TopicContext

end SyriusOrbit.Mqtt

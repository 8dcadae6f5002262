import Mathlib.Data.List.Basic
import Mathlib.Data.List.Forall2

/-!
# Topics

The parts of an MQTT topic, `<interface>/<version>/<manufacturer>/<serialNumber>/<suffix>`, and the functions that
read and build topics and filters.
-/

namespace SyriusOrbit.Mqtt

structure VDA5050TopicContext where
  interfaceName : String
  majorVersion : String
  manufacturer : String
  serialNumber : String
  deriving DecidableEq, Inhabited

/-- `std::string::find(c, pos)`. -/
def find (s : List Char) (c : Char) (pos : Nat) : Option Nat := ((s.drop pos).findIdx? (· == c)).map (· + pos)

/-- `std::string::substr(pos, n)`. -/
def substr (s : List Char) (pos n : Nat) : String := String.ofList ((s.drop pos).take n)

/-- `VDA5050Proxy::parse_topic_prefix`. -/
def parseTopicPrefix (pre : String) : Option VDA5050TopicContext :=
  let cs := pre.toList
  match find cs '/' 0 with
  | none => none
  | some sep =>
    if sep = 0 ∨ sep = cs.length - 1 then none
    else if (find cs '/' (sep + 1)).isSome then none
    else some
      { interfaceName := substr cs 0 sep
        majorVersion := substr cs (sep + 1) (cs.length - (sep + 1))
        manufacturer := ""
        serialNumber := "" }

namespace VDA5050TopicContext

/-- `VDA5050Subscriber::buildFilter`. -/
def buildFilter (template : VDA5050TopicContext) (suffix : String) : String :=
  template.interfaceName ++ "/" ++ template.majorVersion ++ "/+/+/" ++ suffix

/-- `VDA5050Subscriber::parseTopicContext`. -/
def parseTopicContext (template : VDA5050TopicContext) (topic suffix : String) : Option VDA5050TopicContext :=
  let expectedPrefix := (template.interfaceName ++ "/" ++ template.majorVersion ++ "/").toList
  if !expectedPrefix.isPrefixOf topic.toList then none
  else
    let remainder := topic.toList.drop expectedPrefix.length
    match find remainder '/' 0 with
    | none => none
    | some firstSep =>
      if firstSep = 0 then none
      else
        match find remainder '/' (firstSep + 1) with
        | none => none
        | some secondSep =>
          if secondSep = firstSep + 1 then none
          else if remainder.drop (secondSep + 1) ≠ suffix.toList then none
          else some
            { template with
              manufacturer := substr remainder 0 firstSep
              serialNumber := substr remainder (firstSep + 1) (secondSep - firstSep - 1) }

/-- `VDA5050Publisher::buildTopic`. -/
def buildTopic (context : VDA5050TopicContext) (suffix : String) : Option String :=
  if context.interfaceName = "" ∨ context.majorVersion = "" ∨ context.manufacturer = "" ∨ context.serialNumber = "" ∨
      suffix = "" then none
  else some (context.interfaceName ++ "/" ++ context.majorVersion ++ "/" ++ context.manufacturer ++ "/" ++
    context.serialNumber ++ "/" ++ suffix)

/-! ### Topics that are parsed -/

/-- The topic has the levels of the template, those of a robot and the suffix. -/
structure TopicOf (template context : VDA5050TopicContext) (topic suffix : String) : Prop where
  interfaceName : context.interfaceName = template.interfaceName
  majorVersion : context.majorVersion = template.majorVersion
  manufacturer : context.manufacturer ≠ "" ∧ '/' ∉ context.manufacturer.toList
  serialNumber : context.serialNumber ≠ "" ∧ '/' ∉ context.serialNumber.toList
  topic_eq : topic = template.interfaceName ++ "/" ++ template.majorVersion ++ "/" ++ context.manufacturer ++ "/" ++
    context.serialNumber ++ "/" ++ suffix

private theorem of_find {s : List Char} {c : Char} {pos i : Nat} (h : find s c pos = some i) :
    ∃ before after, s.drop pos = before ++ c :: after ∧ c ∉ before ∧ i = pos + before.length := by
  unfold find at h
  obtain ⟨k, hk, rfl⟩ := Option.map_eq_some_iff.1 h
  obtain ⟨hlt, hc, hbefore⟩ := List.findIdx?_eq_some_iff_getElem.1 hk
  have hsplit : s.drop pos = (s.drop pos).take k ++ c :: (s.drop pos).drop (k + 1) := by
    conv_lhs => rw [← List.take_append_drop k (s.drop pos), List.drop_eq_getElem_cons hlt]
    rw [beq_iff_eq.1 hc]
  refine ⟨_, _, hsplit, fun hmem => ?_, ?_⟩
  · obtain ⟨j, hj, hget⟩ := List.mem_take_iff_getElem.1 hmem
    exact hbefore j (by omega) (by simp [hget])
  · rw [List.length_take]
    omega

/-- Two separators in a row split off two parts. -/
private theorem split_of_find {s : List Char} {i j : Nat} (hi : find s '/' 0 = some i)
    (hj : find s '/' (i + 1) = some j) :
    ∃ m n tail, s = m ++ '/' :: (n ++ '/' :: tail) ∧ '/' ∉ m ∧ '/' ∉ n ∧ i = m.length ∧
      j = m.length + 1 + n.length := by
  obtain ⟨m, rest, hrest, hm, rfl⟩ := of_find hi
  obtain ⟨n, tail, htail, hn, rfl⟩ := of_find hj
  rw [List.drop_zero] at hrest
  have hdrop : s.drop (0 + m.length + 1) = rest := by simp [hrest, List.drop_append]
  rw [hdrop] at htail
  exact ⟨m, n, tail, htail ▸ hrest, hm, hn, by omega, by omega⟩

private theorem drop_parts (m n tail : List Char) :
    (m ++ '/' :: (n ++ '/' :: tail)).drop (m.length + 1 + n.length + 1) = tail := by
  have hparts : m ++ '/' :: (n ++ '/' :: tail) = (m ++ '/' :: (n ++ ['/'])) ++ tail := by simp
  rw [hparts]
  exact List.drop_left' (by simp; omega)

private theorem substr_first (m rest : List Char) : substr (m ++ rest) 0 m.length = String.ofList m := by simp [substr]

private theorem substr_second (m n tail : List Char) :
    substr (m ++ '/' :: (n ++ '/' :: tail)) (m.length + 1) (m.length + 1 + n.length - m.length - 1) =
      String.ofList n := by
  have hlength : m.length + 1 + n.length - m.length - 1 = n.length := by omega
  have hdrop : (m ++ '/' :: (n ++ '/' :: tail)).drop (m.length + 1) = n ++ '/' :: tail := by simp [List.drop_append]
  rw [substr, hdrop, hlength, List.take_left]

theorem topicOf_of_parseTopicContext {template context : VDA5050TopicContext} {topic suffix : String}
    (h : template.parseTopicContext topic suffix = some context) : template.TopicOf context topic suffix := by
  unfold parseTopicContext at h
  dsimp only at h
  generalize hpre : (template.interfaceName ++ "/" ++ template.majorVersion ++ "/").toList = pre at h
  split at h
  · cases h
  · next hstart =>
    rw [Bool.not_eq_true', Bool.not_eq_false, List.isPrefixOf_iff_prefix] at hstart
    obtain ⟨remainder, htopic⟩ := hstart
    rw [← htopic, List.drop_left] at h
    split at h
    · cases h
    · next firstSep hfirst =>
      split at h
      · cases h
      · next hmanufacturer =>
        split at h
        · cases h
        · next secondSep hsecond =>
          obtain ⟨m, n, tail, rfl, hm, hn, rfl, rfl⟩ := split_of_find hfirst hsecond
          rw [drop_parts, substr_first, substr_second] at h
          split at h
          · cases h
          · next hserial =>
            split at h
            · cases h
            · next htail =>
              obtain rfl := Option.some.inj h
              refine ⟨rfl, rfl, ⟨?_, by simpa using hm⟩, ⟨?_, by simpa using hn⟩, ?_⟩
              · simpa [String.ofList_eq_empty_iff] using hmanufacturer
              · simpa using hserial
              · refine String.toList_injective ?_
                rw [← htopic, ← hpre, not_not.1 htail]
                simp

private theorem find_of_split {s before after : List Char} {c : Char} {pos : Nat}
    (h : s.drop pos = before ++ c :: after) (hc : c ∉ before) : find s c pos = some (pos + before.length) := by
  have hindex : (before ++ c :: after).findIdx? (· == c) = some before.length := by
    rw [List.findIdx?_eq_some_iff_getElem]
    refine ⟨by simp, by simp, fun j hj => ?_⟩
    rw [List.getElem_append_left hj]
    exact fun heq => hc (beq_iff_eq.1 heq ▸ List.getElem_mem hj)
  rw [find, h, hindex, Option.map_some, Nat.add_comm]

/-- A topic with the levels of the template, those of a robot and the suffix is parsed. -/
theorem TopicOf.parseTopicContext {template context : VDA5050TopicContext} {topic suffix : String}
    (h : template.TopicOf context topic suffix) : template.parseTopicContext topic suffix = some context := by
  obtain ⟨hmne, hm⟩ := h.manufacturer
  obtain ⟨hnne, hn⟩ := h.serialNumber
  have htopic : topic.toList = (template.interfaceName ++ "/" ++ template.majorVersion ++ "/").toList ++
      (context.manufacturer.toList ++ '/' :: (context.serialNumber.toList ++ '/' :: suffix.toList)) := by
    rw [h.topic_eq]
    simp
  unfold VDA5050TopicContext.parseTopicContext
  dsimp only
  rw [htopic, List.drop_left]
  generalize (template.interfaceName ++ "/" ++ template.majorVersion ++ "/").toList = pre
  have hstart : pre.isPrefixOf (pre ++ (context.manufacturer.toList ++
      '/' :: (context.serialNumber.toList ++ '/' :: suffix.toList))) = true :=
    List.isPrefixOf_iff_prefix.2 (List.prefix_append _ _)
  rw [hstart, if_neg (by simp), find_of_split (List.drop_zero ..) hm]
  generalize hmchars : context.manufacturer.toList = m at *
  generalize hnchars : context.serialNumber.toList = n at *
  have hdrop : (m ++ '/' :: (n ++ '/' :: suffix.toList)).drop (m.length + 1) = n ++ '/' :: suffix.toList := by
    simp [List.drop_append]
  have hsecond : find (m ++ '/' :: (n ++ '/' :: suffix.toList)) '/' (0 + m.length + 1) =
      some (m.length + 1 + n.length) := by
    rw [Nat.zero_add]
    exact find_of_split hdrop hn
  have hmlength : ¬ 0 + m.length = 0 := by
    rw [Nat.zero_add, List.length_eq_zero_iff, ← hmchars]
    simpa using hmne
  have hnlength : ¬ m.length + 1 + n.length = 0 + m.length + 1 := by
    have : n.length ≠ 0 := by
      rw [Ne, List.length_eq_zero_iff, ← hnchars]
      simpa using hnne
    omega
  dsimp only
  rw [if_neg hmlength, hsecond]
  dsimp only
  rw [if_neg hnlength, Nat.zero_add, drop_parts, if_neg (by simp), substr_first, substr_second, ← hmchars, ← hnchars,
    String.ofList_toList, String.ofList_toList, ← h.interfaceName, ← h.majorVersion]

theorem parseTopicContext_eq_some_iff {template context : VDA5050TopicContext} {topic suffix : String} :
    template.parseTopicContext topic suffix = some context ↔ template.TopicOf context topic suffix :=
  ⟨topicOf_of_parseTopicContext, TopicOf.parseTopicContext⟩

/-- A topic that was parsed is built again from its parts. -/
theorem TopicOf.buildTopic {template context : VDA5050TopicContext} {topic suffix : String}
    (h : template.TopicOf context topic suffix) (hinterface : template.interfaceName ≠ "")
    (hversion : template.majorVersion ≠ "") (hsuffix : suffix ≠ "") : context.buildTopic suffix = some topic := by
  unfold VDA5050TopicContext.buildTopic
  rw [h.interfaceName, h.majorVersion, if_neg (by simp [hinterface, hversion, h.manufacturer.1, h.serialNumber.1,
    hsuffix]), h.topic_eq]

/-- The template has the two levels of the prefix, neither of them empty. -/
structure PrefixOf (template : VDA5050TopicContext) (pre : String) : Prop where
  interfaceName : template.interfaceName ≠ "" ∧ '/' ∉ template.interfaceName.toList
  majorVersion : template.majorVersion ≠ "" ∧ '/' ∉ template.majorVersion.toList
  pre_eq : pre = template.interfaceName ++ "/" ++ template.majorVersion

private theorem not_mem_of_find_eq_none {s : List Char} {c : Char} {pos : Nat} (h : find s c pos = none) :
    c ∉ s.drop pos := by
  unfold find at h
  rw [Option.map_eq_none_iff, List.findIdx?_eq_none_iff] at h
  exact fun hmem => by simpa using h c hmem

theorem prefixOf_of_parseTopicPrefix {template : VDA5050TopicContext} {pre : String}
    (h : parseTopicPrefix pre = some template) : template.PrefixOf pre := by
  unfold parseTopicPrefix at h
  dsimp only at h
  split at h
  · cases h
  · next sep hsep =>
    obtain ⟨i, v, hsplit, hi, rfl⟩ := of_find hsep
    rw [List.drop_zero] at hsplit
    have hdrop : pre.toList.drop (0 + i.length + 1) = v := by simp [hsplit, List.drop_append]
    split at h
    · cases h
    · next hends =>
      rw [not_or] at hends
      split at h
      · cases h
      · next hsecond =>
        rw [Bool.not_eq_true, Option.isSome_eq_false_iff, Option.isNone_iff_eq_none] at hsecond
        have hv := not_mem_of_find_eq_none hsecond
        rw [hdrop] at hv
        obtain rfl := Option.some.inj h
        have hinterface : substr pre.toList 0 (0 + i.length) = String.ofList i := by
          rw [hsplit, Nat.zero_add, substr_first]
        have hversion : substr pre.toList (0 + i.length + 1) (pre.toList.length - (0 + i.length + 1)) =
            String.ofList v := by
          rw [substr, ← List.length_drop, List.take_length, hdrop]
        have hlength : pre.toList.length = i.length + v.length + 1 := by
          rw [hsplit, List.length_append, List.length_cons, Nat.add_assoc]
        refine ⟨?_, ?_, ?_⟩
        · dsimp only
          rw [hinterface, Ne, String.ofList_eq_empty_iff, ← List.length_eq_zero_iff, String.toList_ofList]
          exact ⟨by omega, hi⟩
        · dsimp only
          rw [hversion, Ne, String.ofList_eq_empty_iff, ← List.length_eq_zero_iff, String.toList_ofList]
          exact ⟨by omega, hv⟩
        · dsimp only
          rw [hinterface, hversion]
          refine String.toList_injective ?_
          simpa using hsplit

end VDA5050TopicContext

/-! ### Levels -/

/-- The levels of a topic or a filter. -/
def levels (s : String) : List (List Char) := s.toList.splitOn '/'

theorem levels_append (s s' : String) : levels (s ++ "/" ++ s') = levels s ++ levels s' := by
  unfold levels
  rw [String.toList_append, String.toList_append, List.append_assoc]
  exact List.splitOn_append_cons_self _ _

theorem levels_eq_singleton {s : String} (h : '/' ∉ s.toList) : levels s = [s.toList] := List.splitOn_eq_singleton h

theorem levels_injective : Function.Injective levels := by
  intro s s' h
  have hjoined := congrArg (List.intercalate ['/']) h
  rw [levels, levels, List.intercalate_splitOn, List.intercalate_splitOn] at hjoined
  exact String.toList_injective hjoined

/-- Level by level, the filter has the level of the topic or the wildcard for one level. -/
def LevelsMatch (topicFilter topic : String) : Prop :=
  List.Forall₂ (fun f l => f = l ∨ f = ['+']) (levels topicFilter) (levels topic)

/-- A name a message can be published on: it has no wildcards. -/
def ValidTopic (topic : String) : Prop := '+' ∉ topic.toList ∧ '#' ∉ topic.toList

instance (topic : String) : Decidable (ValidTopic topic) := inferInstanceAs (Decidable (_ ∧ _))

namespace VDA5050TopicContext

theorem TopicOf.levels_eq {template context : VDA5050TopicContext} {topic suffix : String}
    (h : template.TopicOf context topic suffix) : levels topic = levels template.interfaceName ++
      levels template.majorVersion ++ [context.manufacturer.toList, context.serialNumber.toList] ++ levels suffix := by
  rw [h.topic_eq]
  simp only [levels_append, levels_eq_singleton h.manufacturer.2, levels_eq_singleton h.serialNumber.2,
    List.append_assoc, List.singleton_append]

/-- A topic has one suffix. -/
theorem TopicOf.suffix_eq {template context context' : VDA5050TopicContext} {topic suffix suffix' : String}
    (h : template.TopicOf context topic suffix) (h' : template.TopicOf context' topic suffix') :
    suffix = suffix' := by
  have hlevels := h.levels_eq.symm.trans h'.levels_eq
  exact levels_injective (List.append_inj_right hlevels (by simp))

theorem levels_buildFilter (template : VDA5050TopicContext) (suffix : String) :
    levels (template.buildFilter suffix) = levels template.interfaceName ++ levels template.majorVersion ++
      [['+'], ['+']] ++ levels suffix := by
  have hfilter : template.buildFilter suffix =
      template.interfaceName ++ "/" ++ template.majorVersion ++ "/" ++ "+" ++ "/" ++ "+" ++ "/" ++ suffix := by
    refine String.toList_injective ?_
    simp [buildFilter]
  rw [hfilter]
  have hplus : levels "+" = [['+']] := rfl
  simp only [levels_append, hplus, List.append_assoc, List.singleton_append]

/-- A topic that is parsed matches the filter it was subscribed with. -/
theorem TopicOf.levelsMatch {template context : VDA5050TopicContext} {topic suffix : String}
    (h : template.TopicOf context topic suffix) : LevelsMatch (template.buildFilter suffix) topic := by
  unfold LevelsMatch
  rw [levels_buildFilter, h.levels_eq]
  have hsame : ∀ ls : List (List Char), List.Forall₂ (fun f l => f = l ∨ f = ['+']) ls ls :=
    fun ls => List.forall₂_same.2 fun _ _ => .inl rfl
  refine List.rel_append (List.rel_append (hsame _) ?_) (hsame _)
  exact .cons (.inr rfl) (.cons (.inr rfl) .nil)

/-- The first level of the filter is no wildcard unless the topic has it too. -/
theorem TopicOf.head?_levels {template context : VDA5050TopicContext} {topic suffix : String}
    (h : template.TopicOf context topic suffix) :
    (levels (template.buildFilter suffix)).head? = (levels topic).head? := by
  rw [levels_buildFilter, h.levels_eq]
  obtain ⟨l, ls, hinterface⟩ := List.exists_cons_of_ne_nil (List.splitOn_ne_nil '/' template.interfaceName.toList)
  rw [show levels template.interfaceName = l :: ls from hinterface]
  rfl

end VDA5050TopicContext

example : (⟨"uagv", "v3", "", ""⟩ : VDA5050TopicContext).parseTopicContext "uagv/v3/acme/7/state" "state" =
    some ⟨"uagv", "v3", "acme", "7"⟩ := by decide

end SyriusOrbit.Mqtt

import SyriusOrbit.RuntimeConfig

/-!
# Ports

The three ports, from what is given for them on the command line or in the config file to what the daemon runs with.
`stoi` looks at the first digits only and the conversions to 16 bits wrap around, so that a port is taken exactly if
and only if an integer of the range is given for it and nothing else stands in its way (`taken_iff`).
-/

namespace SyriusOrbit

open JsonFormat

inductive Port where
  | http | mqtt | cloudMqtt

namespace Port

/-- The argument of `--http-port`, `--mqtt-port` or `--cloud-mqtt-port`. -/
def option : Port → CommandLine → Option String
  | http => CommandLine.httpPort
  | mqtt => CommandLine.mqttPort
  | cloudMqtt => CommandLine.cloudMqttPort

def key : Port → String
  | http => "http_port"
  | mqtt => "mqtt_port"
  | cloudMqtt => "cloud_mqtt_port"

def get : Port → RuntimeConfig → UInt16
  | http => RuntimeConfig.httpPort
  | mqtt => RuntimeConfig.mqttPort
  | cloudMqtt => RuntimeConfig.cloudMqttPort

/-- The built-in default. -/
def dflt (p : Port) : UInt16 := p.get {}

end Port

/-! ### Integers as they are written -/

/-- Whether there is a minus sign, and what follows the sign. -/
def splitSign : List Char → Bool × List Char
  | '-' :: cs => (true, cs)
  | '+' :: cs => (false, cs)
  | cs => (false, cs)

def signed (negative : Bool) (n : Nat) : Int := if negative then -n else n

/-- The integer that a text is, up to blanks around it. -/
def integerText (s : String) : Option Int :=
  let number := splitSign (s.toList.dropWhile isSpace)
  let digits := number.2.takeWhile Char.isDigit
  if digits ≠ [] ∧ (number.2.dropWhile Char.isDigit).all isSpace then some (signed number.1 (decimal digits)) else none

/-- The integer that a JSON value is. -/
def integerValue : Json → Option Int
  | .int n => some n
  | .float x => (floatValue x).bind fun q => if q.den = 1 then some q.num else none
  | _ => none

private theorem stoi_eq (s : String) :
    stoi s =
      let number := splitSign (s.toList.dropWhile isSpace)
      let digits := number.2.takeWhile Char.isDigit
      if digits = [] then none
      else if InRange 31 (signed number.1 (decimal digits)) then some (signed number.1 (decimal digits)) else none := by
  unfold stoi
  generalize s.toList.dropWhile isSpace = cs
  split
  · rfl
  · rfl
  · next hminus hplus =>
    rw [splitSign.eq_3 cs hminus hplus]
    rfl

/-- Where `stoi` finds a number in the text of an integer, it is that integer. -/
private theorem eq_of_stoi {s : String} {n m : Int} (hn : integerText s = some n) (hm : stoi s = some m) : m = n := by
  unfold integerText at hn
  rw [stoi_eq] at hm
  simp only [Option.ite_none_right_eq_some, Option.ite_none_left_eq_some, Option.some.injEq] at hn hm
  exact hm.2.2.symm.trans hn.2

private theorem ofInt_toNat (n : UInt16) : UInt16.ofInt n.toNat = n := by
  have hn := n.toNat_lt
  rw [← UInt16.toNat_inj, UInt16.ofInt, UInt16.toNat_ofNat']
  omega

variable [ConfigLibrary]

/-- An integer of the range is converted to itself. -/
private theorem getUInt16_of_integerValue {v : Json} {n : UInt16} (h : integerValue v = some (n.toNat : Int)) :
    getUInt16 v = .ok n := by
  cases v with
  | int k =>
    have hk : k = n.toNat := Option.some.inj h
    rw [hk]
    exact getUInt16_int n
  | float x =>
    obtain ⟨q, hq, hint⟩ := Option.bind_eq_some_iff.1 h
    rw [Option.ite_none_right_eq_some, Option.some.injEq] at hint
    have hvalue : floatValue x = some (((n.toNat : Int)) : ℚ) := by
      rw [hq, ← hint.2, Option.some_inj]
      exact (Rat.den_eq_one_iff q).1 hint.1 |>.symm
    have hn := n.toNat_lt
    rw [getUInt16, truncate_of_floatValue_eq_int hvalue]
    dsimp only
    rw [if_pos (by omega), ofInt_toNat]
  | _ => cases h

/-! ### The configured ports -/

/-- The JSON value of the config file, where there is one. -/
def configJson (files : String → Option String) (cl : CommandLine) : Option Json :=
  let path := cl.config.getD ({} : RuntimeConfig).configFilePath
  if path = "" then none else (files path).bind fun content => (JsonLibrary.parse content).toOption

/-- What is given for the port, on the command line or else in the file: an integer or something else. -/
def Port.written (p : Port) (files : String → Option String) (cl : CommandLine) : Option (Option Int) :=
  match p.option cl with
  | some s => some (integerText s)
  | none => (configJson files cl).bind fun j => (j.find? p.key).map integerValue

/-- If the daemon runs, then with the integer that is given for the port, if anything is given. -/
def Port.Taken (p : Port) (files : String → Option String) (cl : CommandLine) : Prop :=
  ∀ config, mainConfig files cl = some config →
    ∀ w, p.written files cl = some w → w = some ((p.get config).toNat : Int)

omit [ConfigLibrary] in
/-- `stoi` finds no number in the argument of a port, which ends the program. -/
def Refused (cl : CommandLine) : Prop := ∃ (p : Port) (s : String), p.option cl = some s ∧ stoi s = none

/-- On the command line stands an integer of the range, and where it is the default, a file that is loaded has the
same port; or in the file stands one, and the file is loaded or the integer is the default. -/
def Port.Exact (p : Port) (files : String → Option String) (cl : CommandLine) : Prop :=
  match p.option cl with
  | some s => ∃ n : UInt16, integerText s = some (n.toNat : Int) ∧
    (n = p.dflt → ∀ j, configJson files cl = some j → RuntimeConfig.Decodable j →
      ∀ v, j.find? p.key = some v → getUInt16 v = .ok n)
  | none => ∀ j, configJson files cl = some j → ∀ v, j.find? p.key = some v →
    ∃ n : UInt16, integerValue v = some (n.toNat : Int) ∧ (RuntimeConfig.Decodable j ∨ n = p.dflt)

omit [ConfigLibrary] in
private theorem portOfString_dflt (p : Port) : portOfString (toString p.dflt) = some p.dflt := by
  cases p <;> decide

omit [ConfigLibrary] in
private theorem portOfString_get {cl : CommandLine} {cli : RuntimeConfig} (h : cl.configCli = some cli) (p : Port) :
    portOfString (parserGet (p.option cl) (toString p.dflt)) = some (p.get cli) := by
  unfold CommandLine.configCli at h
  dsimp only at h
  simp only [Option.bind_eq_bind, Option.bind_eq_some_iff, Option.pure_def, Option.some.injEq] at h
  obtain ⟨httpPort, hhttpPort, mqttPort, hmqttPort, cloudMqttPort, hcloudMqttPort, rfl⟩ := h
  cases p with
  | http => exact hhttpPort
  | mqtt => exact hmqttPort
  | cloudMqtt => exact hcloudMqttPort

omit [ConfigLibrary] in
private theorem configCli_eq_none_iff (cl : CommandLine) : cl.configCli = none ↔ Refused cl := by
  constructor
  · intro h
    by_contra hrefused
    have hport : ∀ p : Port, ∃ port, portOfString (parserGet (p.option cl) (toString p.dflt)) = some port := by
      intro p
      cases hoption : p.option cl with
      | none => exact ⟨p.dflt, portOfString_dflt p⟩
      | some s =>
        cases hstoi : stoi s with
        | none => exact absurd ⟨p, s, hoption, hstoi⟩ hrefused
        | some n => exact ⟨.ofInt n, congrArg (Option.map UInt16.ofInt) hstoi⟩
    obtain ⟨httpPort, hhttpPort⟩ := hport .http
    obtain ⟨mqttPort, hmqttPort⟩ := hport .mqtt
    obtain ⟨cloudMqttPort, hcloudMqttPort⟩ := hport .cloudMqtt
    have hcli : cl.configCli.isSome = true := by
      unfold CommandLine.configCli
      simp only [Port.option, Port.dflt, Port.get] at hhttpPort hmqttPort hcloudMqttPort
      simp [hhttpPort, hmqttPort, hcloudMqttPort]
    rw [h] at hcli
    cases hcli
  · rintro ⟨p, s, hoption, hstoi⟩
    cases hcli : cl.configCli with
    | none => rfl
    | some cli =>
      have hget := portOfString_get hcli p
      rw [hoption] at hget
      have hnone : portOfString s = none := congrArg (Option.map UInt16.ofInt) hstoi
      cases hnone.symm.trans hget

omit [ConfigLibrary] in
private theorem get_override (p : Port) (file cli : RuntimeConfig) :
    p.get (file.override cli) = overrideField p.dflt (p.get file) (p.get cli) := by
  cases p <;> rfl

/-- The port of a decoded file is that of its member. -/
private theorem getUInt16_of_ofJson {j : Json} {file : RuntimeConfig} (h : RuntimeConfig.ofJson j = .ok file)
    (p : Port) :
    ∃ v, j.find? p.key = some v ∧ getUInt16 v = .ok (p.get file) := by
  rw [RuntimeConfig.ofJson] at h
  simp only [bind_eq_ok] at h
  obtain ⟨_, -, _, -, _, hhttp, _, -, _, hmqtt, _, -, _, -, _, -, _, -, _, hcloud, _, -, _, -, _, -, _, -, _, -, _, -,
    hfile⟩ := h
  cases hfile
  cases p with
  | http => exact getAt_eq_ok.1 hhttp
  | mqtt => exact getAt_eq_ok.1 hmqtt
  | cloudMqtt => exact getAt_eq_ok.1 hcloud

/-- The config file, if it is loaded. -/
def loadedFile (files : String → Option String) (cl : CommandLine) : Option RuntimeConfig :=
  (configJson files cl).bind fun j => (RuntimeConfig.ofJson j).toOption

private theorem loadedFile_eq_some {files : String → Option String} {cl : CommandLine} {file : RuntimeConfig} :
    loadedFile files cl = some file ↔ ∃ j, configJson files cl = some j ∧ RuntimeConfig.ofJson j = .ok file := by
  unfold loadedFile
  rw [Option.bind_eq_some_iff]
  refine exists_congr fun j => and_congr_right fun _ => ?_
  cases RuntimeConfig.ofJson j <;> simp [Except.toOption]

private theorem exists_loadedFile {files : String → Option String} {cl : CommandLine} {j : Json}
    (hj : configJson files cl = some j) (h : RuntimeConfig.Decodable j) :
    ∃ file, loadedFile files cl = some file ∧ RuntimeConfig.ofJson j = .ok file := by
  obtain ⟨file, hfile⟩ := RuntimeConfig.exists_ofJson_iff.2 h
  exact ⟨file, loadedFile_eq_some.2 ⟨j, hj, hfile⟩, hfile⟩

private theorem loadedFile_eq_none {files : String → Option String} {cl : CommandLine} {j : Json}
    (hj : configJson files cl = some j) (h : ¬ RuntimeConfig.Decodable j) : loadedFile files cl = none := by
  cases hfile : loadedFile files cl with
  | none => rfl
  | some file =>
    obtain ⟨j', hj', hjson⟩ := loadedFile_eq_some.1 hfile
    rw [hj, Option.some_inj] at hj'
    subst hj'
    exact absurd (RuntimeConfig.exists_ofJson_iff.1 ⟨file, hjson⟩) h

/-- What `main` runs with, once the command line is converted. -/
private theorem mainConfig_eq {cl : CommandLine} {cli : RuntimeConfig} (hcli : cl.configCli = some cli)
    (files : String → Option String) :
    mainConfig files cl = some (((loadedFile files cl).map fun file => file.override cli).getD cli) := by
  have hpath : cli.configFilePath = cl.config.getD ({} : RuntimeConfig).configFilePath := by
    rw [configCli_eq hcli]
    rfl
  simp only [mainConfig, hcli, Option.bind_eq_bind, Option.bind_some, Option.pure_def, hpath]
  unfold loadedFile configJson loadJsonConfigFile
  dsimp only
  split
  · rfl
  · cases files (cl.config.getD ({} : RuntimeConfig).configFilePath) with
    | none => rfl
    | some content =>
      simp only [Option.bind_some]
      cases JsonLibrary.parse content with
      | error e => rfl
      | ok j =>
        simp only [Except.toOption, Option.bind_some]
        cases RuntimeConfig.ofJson j <;> rfl

/-- The port of the command line, unless it is the default and a file is loaded. -/
private theorem get_mainConfig {cl : CommandLine} {cli config : RuntimeConfig} (hcli : cl.configCli = some cli)
    {files : String → Option String} (h : mainConfig files cl = some config) (p : Port) :
    p.get config = match loadedFile files cl with
      | some file => overrideField p.dflt (p.get file) (p.get cli)
      | none => p.get cli := by
  rw [mainConfig_eq hcli, Option.some_inj] at h
  rw [← h]
  cases loadedFile files cl with
  | none => rfl
  | some file => exact get_override p file cli

/-- A port on the command line. -/
private theorem taken_iff_of_option {cl : CommandLine} {cli : RuntimeConfig} (hcli : cl.configCli = some cli) {p : Port}
    {s : String} (hoption : p.option cl = some s) (files : String → Option String) :
    p.Taken files cl ↔ p.Exact files cl := by
  have hwritten : p.written files cl = some (integerText s) := by rw [Port.written, hoption]
  obtain ⟨m, hstoi, hm⟩ : ∃ m, stoi s = some m ∧ UInt16.ofInt m = p.get cli := by
    have hget := portOfString_get hcli p
    rw [hoption] at hget
    exact Option.map_eq_some_iff.1 hget
  unfold Port.Taken Port.Exact
  rw [hoption]
  dsimp only
  constructor
  · intro h
    have hconfig := mainConfig_eq hcli files
    have hn := h _ hconfig _ hwritten
    have hport := get_mainConfig hcli hconfig p
    generalize ((loadedFile files cl).map fun file => file.override cli).getD cli = config at hn hport
    have hcliPort : p.get cli = p.get config := by
      rw [← hm, eq_of_stoi hn hstoi, ofInt_toNat]
    refine ⟨p.get config, hn, fun hdflt j hj hdecodable v hv => ?_⟩
    obtain ⟨file, hloaded, hjson⟩ := exists_loadedFile hj hdecodable
    obtain ⟨v', hv', hget⟩ := getUInt16_of_ofJson hjson p
    rw [hv, Option.some_inj] at hv'
    rw [hloaded, hcliPort, hdflt] at hport
    dsimp only at hport
    rw [overrideField, if_neg (by simp)] at hport
    rw [hv', hget, hdflt, ← hport]
  · rintro ⟨n, hn, hfile⟩ config hconfig w hw
    have hcliPort : p.get cli = n := by
      rw [← hm, eq_of_stoi hn hstoi, ofInt_toNat]
    have hport := get_mainConfig hcli hconfig p
    rw [hwritten, Option.some_inj] at hw
    rw [← hw, hn, hport]
    cases hloaded : loadedFile files cl with
    | none => rw [hcliPort]
    | some file =>
      dsimp only
      rw [overrideField, hcliPort]
      split
      · rfl
      · next hdflt =>
        rw [not_not] at hdflt
        obtain ⟨j, hj, hjson⟩ := loadedFile_eq_some.1 hloaded
        obtain ⟨v, hv, hget⟩ := getUInt16_of_ofJson hjson p
        have hsame := hfile hdflt j hj (RuntimeConfig.exists_ofJson_iff.1 ⟨file, hjson⟩) v hv
        rw [hsame, Except.ok.injEq] at hget
        rw [hget]

/-- A port in the file alone. -/
private theorem taken_iff_of_member {cl : CommandLine} {cli : RuntimeConfig} (hcli : cl.configCli = some cli) {p : Port}
    (hoption : p.option cl = none) (files : String → Option String) : p.Taken files cl ↔ p.Exact files cl := by
  have hcliPort : p.get cli = p.dflt := by
    have hget := portOfString_get hcli p
    rw [hoption] at hget
    exact Option.some.inj (hget.symm.trans (portOfString_dflt p))
  have hwritten : p.written files cl = (configJson files cl).bind fun j => (j.find? p.key).map integerValue := by
    rw [Port.written, hoption]
  unfold Port.Taken Port.Exact
  rw [hoption]
  dsimp only
  constructor
  · intro h j hj v hv
    have hconfig := mainConfig_eq hcli files
    have hn := h _ hconfig (integerValue v) (by rw [hwritten, hj, Option.bind_some, hv, Option.map_some])
    have hport := get_mainConfig hcli hconfig p
    generalize ((loadedFile files cl).map fun file => file.override cli).getD cli = config at hn hport
    refine ⟨p.get config, hn, ?_⟩
    by_cases hdecodable : RuntimeConfig.Decodable j
    · exact .inl hdecodable
    · rw [loadedFile_eq_none hj hdecodable] at hport
      exact .inr (hport.trans hcliPort)
  · intro h config hconfig w hw
    rw [hwritten] at hw
    obtain ⟨j, hj, hw⟩ := Option.bind_eq_some_iff.1 hw
    obtain ⟨v, hv, rfl⟩ := Option.map_eq_some_iff.1 hw
    obtain ⟨n, hn, hrest⟩ := h j hj v hv
    have hport := get_mainConfig hcli hconfig p
    rw [hn, hport]
    by_cases hdecodable : RuntimeConfig.Decodable j
    · obtain ⟨file, hloaded, hjson⟩ := exists_loadedFile hj hdecodable
      obtain ⟨v', hv', hget⟩ := getUInt16_of_ofJson hjson p
      rw [hv, Option.some_inj] at hv'
      rw [← hv', getUInt16_of_integerValue hn, Except.ok.injEq] at hget
      rw [hloaded]
      dsimp only
      rw [overrideField, if_neg (by simp [hcliPort]), hget]
    · rw [loadedFile_eq_none hj hdecodable]
      dsimp only
      rw [hcliPort, hrest.resolve_left hdecodable]

/-- A port is taken exactly or refused if and only if the command line is refused or what is given for the port is an
integer of the range that nothing else replaces. -/
theorem taken_iff (p : Port) (files : String → Option String) (cl : CommandLine) :
    p.Taken files cl ↔ Refused cl ∨ p.Exact files cl := by
  cases hcli : cl.configCli with
  | none =>
    have hrefused := (configCli_eq_none_iff cl).1 hcli
    refine ⟨fun _ => .inl hrefused, fun _ config hconfig => ?_⟩
    rw [mainConfig, hcli] at hconfig
    cases hconfig
  | some cli =>
    have hrefused : ¬ Refused cl := by
      rw [← configCli_eq_none_iff, hcli]
      simp
    rw [or_iff_right hrefused]
    cases hoption : p.option cl with
    | some s => exact taken_iff_of_option hcli hoption files
    | none => exact taken_iff_of_member hcli hoption files

omit [ConfigLibrary] in
/-- The daemon listens on port 80 when it is told to use 65616. -/
theorem not_taken_of_large :
    ¬ ∀ [ConfigLibrary] (p : Port) (files : String → Option String) (cl : CommandLine), p.Taken files cl := by
  intro h
  let lib := ConfigLibrary.ofConfig "config" {}
  have hcli : CommandLine.configCli { httpPort := some "65616" } = some { httpPort := 80 } := by decide
  have htaken := h .http (fun _ => none) { httpPort := some "65616" } _ (mainConfig_eq hcli _) _ rfl
  exact absurd htaken (by decide)

end SyriusOrbit

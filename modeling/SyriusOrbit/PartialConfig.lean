import SyriusOrbit.RuntimeConfig

/-!
# Partial config files

A config file with some of the keys.  `from_json` of `NLOHMANN_DEFINE_TYPE_NON_INTRUSIVE` asks for every key, so that
the values of a file are used if and only if none is missing (`honoured_iff`); a file in which one is missing is
ignored as a whole (`mainConfig_of_not_complete`).
-/

namespace SyriusOrbit

open JsonFormat

/-- The settings that a config file makes. -/
structure PartialConfig where
  configFilePath : Option String := none
  httpHost : Option String := none
  httpPort : Option UInt16 := none
  mqttHost : Option String := none
  mqttPort : Option UInt16 := none
  mqttClientId : Option String := none
  mqttUsername : Option String := none
  mqttPassword : Option String := none
  cloudMqttHost : Option String := none
  cloudMqttPort : Option UInt16 := none
  cloudMqttClientId : Option String := none
  cloudMqttUsername : Option String := none
  cloudMqttPassword : Option String := none
  mqttTopicPrefix : Option String := none
  dbPath : Option String := none
  projectionIntervalMs : Option Int32 := none

namespace PartialConfig

/-- What the file has under each of the keys. -/
def members (settings : PartialConfig) : List (String × Option Json) :=
  [("config_file_path", settings.configFilePath.map .str),
    ("http_host", settings.httpHost.map .str),
    ("http_port", settings.httpPort.map fun port => .int port.toNat),
    ("mqtt_host", settings.mqttHost.map .str),
    ("mqtt_port", settings.mqttPort.map fun port => .int port.toNat),
    ("mqtt_client_id", settings.mqttClientId.map .str),
    ("mqtt_username", settings.mqttUsername.map .str),
    ("mqtt_password", settings.mqttPassword.map .str),
    ("cloud_mqtt_host", settings.cloudMqttHost.map .str),
    ("cloud_mqtt_port", settings.cloudMqttPort.map fun port => .int port.toNat),
    ("cloud_mqtt_client_id", settings.cloudMqttClientId.map .str),
    ("cloud_mqtt_username", settings.cloudMqttUsername.map .str),
    ("cloud_mqtt_password", settings.cloudMqttPassword.map .str),
    ("mqtt_topic_prefix", settings.mqttTopicPrefix.map .str),
    ("db_path", settings.dbPath.map .str),
    ("projection_interval_ms", settings.projectionIntervalMs.map fun interval => .int interval.toInt)]

/-- The settings, with the built-in default for each that is not made. -/
def config (settings : PartialConfig) : RuntimeConfig :=
  let dflt : RuntimeConfig := {}
  { configFilePath := settings.configFilePath.getD dflt.configFilePath
    httpHost := settings.httpHost.getD dflt.httpHost
    httpPort := settings.httpPort.getD dflt.httpPort
    mqttHost := settings.mqttHost.getD dflt.mqttHost
    mqttPort := settings.mqttPort.getD dflt.mqttPort
    mqttClientId := settings.mqttClientId.getD dflt.mqttClientId
    mqttUsername := settings.mqttUsername.getD dflt.mqttUsername
    mqttPassword := settings.mqttPassword.getD dflt.mqttPassword
    cloudMqttHost := settings.cloudMqttHost.getD dflt.cloudMqttHost
    cloudMqttPort := settings.cloudMqttPort.getD dflt.cloudMqttPort
    cloudMqttClientId := settings.cloudMqttClientId.getD dflt.cloudMqttClientId
    cloudMqttUsername := settings.cloudMqttUsername.getD dflt.cloudMqttUsername
    cloudMqttPassword := settings.cloudMqttPassword.getD dflt.cloudMqttPassword
    mqttTopicPrefix := settings.mqttTopicPrefix.getD dflt.mqttTopicPrefix
    dbPath := settings.dbPath.getD dflt.dbPath
    projectionIntervalMs := settings.projectionIntervalMs.getD dflt.projectionIntervalMs }

/-- All sixteen settings are made. -/
def Complete (settings : PartialConfig) : Prop := ∀ m ∈ settings.members, m.2.isSome = true

private theorem members_of_complete {settings : PartialConfig} (h : settings.Complete) :
    settings.members = settings.config.members.map fun m => (m.1, some m.2) := by
  simp only [Complete, members, List.forall_mem_cons, Option.isSome_map] at h
  simp only [Option.isSome_iff_exists] at h
  obtain ⟨⟨_, hconfig⟩, ⟨_, hhttpHost⟩, ⟨_, hhttpPort⟩, ⟨_, hmqttHost⟩, ⟨_, hmqttPort⟩, ⟨_, hmqttClientId⟩,
    ⟨_, hmqttUsername⟩, ⟨_, hmqttPassword⟩, ⟨_, hcloudMqttHost⟩, ⟨_, hcloudMqttPort⟩, ⟨_, hcloudMqttClientId⟩,
    ⟨_, hcloudMqttUsername⟩, ⟨_, hcloudMqttPassword⟩, ⟨_, hmqttTopicPrefix⟩, ⟨_, hdbPath⟩, ⟨_, hinterval⟩, -⟩ := h
  simp only [members, config, RuntimeConfig.members, hconfig, hhttpHost, hhttpPort, hmqttHost, hmqttPort,
    hmqttClientId, hmqttUsername, hmqttPassword, hcloudMqttHost, hcloudMqttPort, hcloudMqttClientId,
    hcloudMqttUsername, hcloudMqttPassword, hmqttTopicPrefix, hdbPath, hinterval, Option.map_some, Option.getD_some,
    List.map_cons, List.map_nil]

end PartialConfig

variable [ConfigLibrary]

/-- The file at the path is an object with these settings: each key that is there has the value of its setting, and
the other keys are missing. -/
structure ConfigObject (files : String → Option String) (path : String) (settings : PartialConfig) : Prop where
  path_ne : path ≠ ""
  content : ∃ content ms, files path = some content ∧ JsonLibrary.parse content = .ok (.obj ms) ∧
    ∀ m ∈ settings.members, ms.lookup m.1 = m.2

/-- The file is loaded, with its settings and the defaults for the others. -/
def Honoured (files : String → Option String) (path : String) (settings : PartialConfig) : Prop :=
  loadJsonConfigFile files path = some settings.config

/-- A decoded object has all the keys. -/
private theorem isSome_of_ofJson {ms : Members} {config : RuntimeConfig}
    (h : RuntimeConfig.ofJson (.obj ms) = .ok config)
    (settings : PartialConfig) : ∀ m ∈ settings.members, (ms.lookup m.1).isSome = true := by
  have hdecodable := RuntimeConfig.exists_ofJson_iff.1 ⟨config, h⟩
  intro m hm
  have hkey : m.1 ∈ RuntimeConfig.stringKeys ∨ m.1 ∈ RuntimeConfig.numberKeys := by
    simp only [PartialConfig.members, List.mem_cons, List.not_mem_nil, or_false] at hm
    rcases hm with rfl | rfl | rfl | rfl | rfl | rfl | rfl | rfl | rfl | rfl | rfl | rfl | rfl | rfl | rfl | rfl
      <;> simp [RuntimeConfig.stringKeys, RuntimeConfig.numberKeys]
  rw [← Json.find?_obj]
  rcases hkey with hkey | hkey
  · obtain ⟨s, hs⟩ := hdecodable.strings m.1 hkey
    rw [hs]
    rfl
  · obtain ⟨v, hv, -⟩ := hdecodable.numbers m.1 hkey
    rw [hv]
    rfl

/-- A file in which a key is missing is not loaded. -/
private theorem loadJsonConfigFile_of_not_complete {files : String → Option String} {path : String}
    {settings : PartialConfig}
    (hobject : ConfigObject files path settings) (h : ¬ settings.Complete) : loadJsonConfigFile files path = none := by
  obtain ⟨hpath, content, ms, hcontent, hparse, hmembers⟩ := hobject
  rw [loadJsonConfigFile, if_neg hpath, hcontent]
  dsimp only
  rw [hparse]
  dsimp only
  cases hjson : RuntimeConfig.ofJson (.obj ms) with
  | error e => rfl
  | ok config =>
    refine absurd (fun m hm => ?_) h
    rw [← hmembers m hm]
    exact isSome_of_ofJson hjson settings m hm

private theorem loadJsonConfigFile_of_complete {files : String → Option String} {path : String}
    {settings : PartialConfig}
    (hobject : ConfigObject files path settings) (h : settings.Complete) : Honoured files path settings := by
  obtain ⟨hpath, content, ms, hcontent, hparse, hmembers⟩ := hobject
  refine loadJsonConfigFile_of_configFile ⟨hpath, content, .obj ms, hcontent, hparse, fun m hm => ?_⟩
  have hmem : (m.1, some m.2) ∈ settings.members := by
    rw [PartialConfig.members_of_complete h]
    exact List.mem_map_of_mem hm
  exact hmembers _ hmem

/-- The settings of a file are honoured if and only if it makes all of them. -/
theorem honoured_iff {files : String → Option String} {path : String} {settings : PartialConfig}
    (hobject : ConfigObject files path settings) : Honoured files path settings ↔ settings.Complete := by
  refine ⟨fun h => ?_, loadJsonConfigFile_of_complete hobject⟩
  by_contra hmissing
  rw [Honoured, loadJsonConfigFile_of_not_complete hobject hmissing] at h
  cases h

/-- The daemon then runs with the command line alone. -/
theorem mainConfig_of_not_complete {files : String → Option String} {cl : CommandLine} {cli : RuntimeConfig}
    {settings : PartialConfig} (hcli : cl.configCli = some cli)
    (hobject : ConfigObject files cli.configFilePath settings) (h : ¬ settings.Complete) :
    mainConfig files cl = some cli := by
  simp only [mainConfig, hcli, Option.bind_eq_bind, Option.bind_some, Option.pure_def]
  rw [if_neg hobject.path_ne, loadJsonConfigFile_of_not_complete hobject h]

/-! ### The example of the documentation -/

omit [ConfigLibrary] in
private theorem lookup_filterMap {settings : List (String × Option Json)} (hk : (settings.map Prod.fst).Nodup)
    {m : String × Option Json} (hm : m ∈ settings) :
    (settings.filterMap fun m => m.2.map fun v => (m.1, v)).lookup m.1 = m.2 := by
  induction settings with
  | nil => cases hm
  | cons m' settings ih =>
    rw [List.map_cons, List.nodup_cons] at hk
    have hrest : ∀ {key}, key ∉ settings.map Prod.fst →
        (settings.filterMap fun m => m.2.map fun v => (m.1, v)).lookup key = none := by
      intro key hkey
      refine lookup_eq_none_of_notMem fun hmem => hkey ?_
      obtain ⟨v, hv, rfl⟩ := List.mem_map.1 hmem
      obtain ⟨m, hm, hv⟩ := List.mem_filterMap.1 hv
      obtain ⟨w, -, rfl⟩ := Option.map_eq_some_iff.1 hv
      exact List.mem_map_of_mem hm
    rw [List.filterMap_cons]
    rcases List.mem_cons.1 hm with rfl | hm
    · cases hvalue : m.2 with
      | none => exact hrest hk.1
      | some v => exact List.lookup_cons_self
    · have hne : m.1 ≠ m'.1 := fun he => hk.1 (he ▸ List.mem_map_of_mem hm)
      cases hvalue : m'.2 with
      | none => exact ih hk.2 hm
      | some v =>
        simp only [Option.map_some]
        rw [List.lookup_cons, beq_false_of_ne hne]
        exact ih hk.2 hm

/-- A library that reads one text as an object with the settings. -/
@[reducible] def ConfigLibrary.ofSettings (text : String) (settings : PartialConfig) : ConfigLibrary where
  toJsonLibrary := .ofText text (.obj (settings.members.filterMap fun m => m.2.map fun v => (m.1, v)))
  outOfRangeUInt16 _ := 0

omit [ConfigLibrary] in
private theorem configObject_ofSettings (text : String) {path : String} (settings : PartialConfig) (hpath : path ≠ "") :
    letI := ConfigLibrary.ofSettings text settings
    ConfigObject (fun _ => some text) path settings := by
  let lib := ConfigLibrary.ofSettings text settings
  refine ⟨hpath, text, _, rfl, if_pos rfl, fun m hm => ?_⟩
  have hkeys : (settings.members.map Prod.fst).Nodup := by
    simp only [PartialConfig.members, List.map_cons, List.map_nil]
    decide
  have hcanon : m.2.map Json.canon = m.2 := by
    simp only [PartialConfig.members, List.mem_cons, List.not_mem_nil, or_false] at hm
    rcases hm with rfl | rfl | rfl | rfl | rfl | rfl | rfl | rfl | rfl | rfl | rfl | rfl | rfl | rfl | rfl | rfl
      <;> rw [Option.map_map] <;> rfl
  rw [lookup_canonMembers, lookup_filterMap hkeys hm, hcanon]

/-- The example file. -/
def exampleSettings : PartialConfig where
  httpHost := some "0.0.0.0"
  httpPort := some 8080
  mqttHost := some "127.0.0.1"
  mqttPort := some 1883
  mqttClientId := some "syrius-orbit-daemon"
  mqttUsername := some ""
  mqttPassword := some ""
  cloudMqttHost := some "127.0.0.1"
  cloudMqttPort := some 1884
  cloudMqttClientId := some "syrius-orbit-daemon-cloud"
  cloudMqttUsername := some ""
  cloudMqttPassword := some ""
  mqttTopicPrefix := some "vda5050/v3"

/-- The example with the keys that it lacks. -/
def completeSettings : PartialConfig :=
  { exampleSettings with
    configFilePath := some "syrius_orbit_daemon.json"
    dbPath := some "syrius_orbit.db"
    projectionIntervalMs := some 500 }

omit [ConfigLibrary] in
theorem honoured_complete :
    letI := ConfigLibrary.ofSettings "config" completeSettings
    Honoured (fun _ => some "config") "syrius_orbit_daemon.json" completeSettings := by
  let lib := ConfigLibrary.ofSettings "config" completeSettings
  refine (honoured_iff (configObject_ofSettings "config" completeSettings (by decide))).2 ?_
  simp [PartialConfig.Complete, PartialConfig.members, completeSettings, exampleSettings]

omit [ConfigLibrary] in
/-- The example lacks the keys `config_file_path`, `db_path` and `projection_interval_ms`. -/
theorem not_honoured_example :
    ¬ ∀ [ConfigLibrary] (files : String → Option String) (path : String) (settings : PartialConfig),
      ConfigObject files path settings → Honoured files path settings := by
  intro h
  let lib := ConfigLibrary.ofSettings "config" exampleSettings
  have hobject := configObject_ofSettings "config" exampleSettings (by decide : "syrius_orbit_daemon.json" ≠ "")
  have hhonoured := h _ _ _ hobject
  have hmissing : ¬ exampleSettings.Complete := fun hcomplete => by
    have hdbPath := hcomplete ("db_path", none) (by simp [PartialConfig.members, exampleSettings])
    cases hdbPath
  rw [Honoured, loadJsonConfigFile_of_not_complete hobject hmissing] at hhonoured
  cases hhonoured

end SyriusOrbit

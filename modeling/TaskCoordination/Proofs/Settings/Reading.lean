import TaskCoordination.Proofs.Coordinator.Setup
import TaskCoordination.Proofs.Settings.Grammar

/-!
# Settings that are read, and what is built of them

A setting is read from its variable alone: it is the default where the variable holds no text, or what the text
means, and it fails exactly for a text that the setting does not admit (`Environment.reads_variable`). The settings
are read one after the other, so that all of them are read or the first of those that fail is the error
(`Settings.reads`). What has been read is positive where it must be, and a coordinator can be set up with it.

Each setting that is read is the default or the number or flag that its text means. The default number of units must
be positive, or there is nothing to start (`read_by_grammar_and_built`).
-/

namespace TaskCoordination

/-- The contents of a variable come to a value: to the default, or to what the text means. -/
def Variable.ComesTo {α : Type} (v : Variable) (byDefault : α) (means : String → α → Prop) (a : α) : Prop :=
  match v with
  | text s => means s a
  | unset | undecodable => a = byDefault

namespace Setting

/-- The order in which settings are read. -/
def inOrder : List Setting :=
  [metricsEnabled, metricsPort, computingUnits, snapshotInterval, listenerQueue]

theorem mem_inOrder (setting : Setting) : setting ∈ inOrder := by
  cases setting <;> decide

/-- The texts that a setting may be given as. -/
def Admits (setting : Setting) (s : String) : Prop :=
  match setting with
  | metricsEnabled => ∃ b, Settings.IsFlag s b
  | metricsPort => ∃ n, Text.IsNumeral s n ∧ n < 2 ^ 16
  | computingUnits => ∃ n, Text.IsNumeral s n ∧ 0 < n ∧ n < 2 ^ 32
  | snapshotInterval | listenerQueue => ∃ n, Text.IsNumeral s n ∧ 0 < n ∧ n < 2 ^ 64

end Setting

/-- A setting that is not given as text, or as one that it admits. -/
def Environment.Suits (env : Environment) (setting : Setting) : Prop :=
  ∀ s, env setting = .text s → setting.Admits s

/-- The first setting, in an order of reading, that is given as a text which it does not admit. -/
def Environment.FirstUnsuited (env : Environment) (order : List Setting) (setting : Setting) : Prop :=
  ∃ before after, order = before ++ setting :: after ∧ (∀ earlier ∈ before, env.Suits earlier) ∧ ¬ env.Suits setting

/-- Each of the settings is what its variable comes to. -/
structure Settings.IsReadFrom (settings : Settings) (env : Environment) (host : UInt32) : Prop where
  metricsEnabled : (env .metricsEnabled).ComesTo true IsFlag settings.metricsEnabled
  metricsPort : (env .metricsPort).ComesTo defaultPort (fun s port => Text.IsNumeral s port.toNat)
    settings.metricsPort
  computingUnits : (env .computingUnits).ComesTo host (fun s units => Text.IsNumeral s units.toNat ∧ 0 < units)
    settings.computingUnits
  snapshotInterval : (env .snapshotInterval).ComesTo defaultInterval
    (fun s n => Text.IsNumeral s n ∧ 0 < n ∧ n ≤ word64Max) settings.snapshotInterval
  listenerQueue : (env .listenerQueue).ComesTo defaultQueue
    (fun s n => Text.IsNumeral s n ∧ 0 < n ∧ n ≤ word64Max) settings.listenerQueue

/-! ### Reading in order -/

namespace Environment

variable {α β : Type} {env : Environment} {order : List Setting} {setting : Setting} {P : α → Prop} {Q : β → Prop}

/-- Reading settings in an order gives a value of which `P` holds, or fails with the first that is not suited. -/
def Reads (env : Environment) (order : List Setting) (result : Except InvalidSetting α) (P : α → Prop) : Prop :=
  match result with
  | .ok a => P a ∧ ∀ setting ∈ order, env.Suits setting
  | .error e => env.FirstUnsuited order e.setting

theorem reads_pure {a : α} (h : P a) : env.Reads [] (pure a) P :=
  ⟨h, by simp⟩

theorem Reads.bind {result : Except InvalidSetting α} {next : α → Except InvalidSetting β}
    (h : env.Reads [setting] result P) (hnext : ∀ a, P a → env.Reads order (next a) Q) :
    env.Reads (setting :: order) (result >>= next) Q := by
  cases result with
  | error e =>
    obtain ⟨before, after, horder, hbefore, hnot⟩ := h
    exact ⟨before, after ++ order, by rw [← List.singleton_append, horder]; simp, hbefore, hnot⟩
  | ok a =>
    obtain ⟨ha, hsuits⟩ := h
    have hsetting : env.Suits setting := hsuits setting (List.mem_singleton_self _)
    have hrest : env.Reads order (next a) Q := hnext a ha
    change env.Reads (setting :: order) (next a) Q
    cases hb : next a with
    | ok b =>
      rw [hb] at hrest
      exact ⟨hrest.1, List.forall_mem_cons.2 ⟨hsetting, hrest.2⟩⟩
    | error e =>
      -- the first of the rest is the first of all, since the one before it has not failed
      rw [hb] at hrest
      obtain ⟨before, after, horder, hbefore, hnot⟩ := hrest
      exact ⟨setting :: before, after, by rw [horder]; rfl, List.forall_mem_cons.2 ⟨hsetting, hbefore⟩, hnot⟩

theorem Reads.of_ok {a : α} (h : env.Reads order (.ok a) P) : P a :=
  h.1

theorem Reads.exists_ok_iff {result : Except InvalidSetting α} (h : env.Reads order result P) :
    (∃ a, result = .ok a) ↔ ∀ setting ∈ order, env.Suits setting := by
  cases result with
  | ok a => exact iff_of_true ⟨a, rfl⟩ h.2
  | error e =>
    obtain ⟨before, after, rfl, -, hnot⟩ := h
    exact iff_of_false (by simp) fun hall => hnot (hall _ (by simp))

/-- A setting that is read is what its variable comes to, or it fails because it does not admit the text. -/
theorem reads_variable (env : Environment) (setting : Setting) (byDefault : α) {parse : String → Option α}
    {means : String → α → Prop} (hparse : ∀ s a, parse s = some a ↔ means s a)
    (hadmits : ∀ s, setting.Admits s ↔ ∃ a, means s a) :
    env.Reads [setting] ((env setting).read setting byDefault parse) ((env setting).ComesTo byDefault means) := by
  have hsuits : env.Suits setting ↔ ∀ s, env setting = .text s → ∃ a, parse s = some a := by
    simp only [Suits, hadmits, hparse]
  cases hv : env setting with
  | unset => exact ⟨rfl, by simp [hsuits, hv]⟩
  | undecodable => exact ⟨rfl, by simp [hsuits, hv]⟩
  | text s =>
    cases hs : parse s with
    | some a =>
      simp only [Reads, Variable.read, Variable.text?, hs]
      exact ⟨(hparse s a).1 hs, by simp [hsuits, hv, hs]⟩
    | none =>
      simp only [Reads, Variable.read, Variable.text?, hs]
      exact ⟨[], [], rfl, by simp, by simp [hsuits, hv, hs]⟩

end Environment

namespace Settings

private theorem admits_port (s : String) :
    Setting.Admits .metricsPort s ↔ ∃ port : UInt16, Text.IsNumeral s port.toNat := by
  constructor
  · rintro ⟨n, hn, hlt⟩
    exact ⟨UInt16.ofNat n, by rwa [UInt16.toNat_ofNat_of_lt' hlt]⟩
  · rintro ⟨port, h⟩
    exact ⟨port.toNat, h, port.toNat_lt⟩

private theorem admits_units (s : String) :
    Setting.Admits .computingUnits s ↔ ∃ units : UInt32, Text.IsNumeral s units.toNat ∧ 0 < units := by
  constructor
  · rintro ⟨n, hn, hpos, hlt⟩
    refine ⟨UInt32.ofNat n, ?_⟩
    rw [UInt32.lt_iff_toNat_lt, UInt32.toNat_ofNat_of_lt' hlt]
    exact ⟨hn, hpos⟩
  · rintro ⟨units, h, hpos⟩
    exact ⟨units.toNat, h, UInt32.lt_iff_toNat_lt.1 hpos, units.toNat_lt⟩

private theorem admits_amount (s : String) :
    (∃ n, Text.IsNumeral s n ∧ 0 < n ∧ n < 2 ^ 64) ↔ ∃ n, Text.IsNumeral s n ∧ 0 < n ∧ n ≤ word64Max :=
  exists_congr fun _ => and_congr_right fun _ => and_congr_right fun _ => Nat.lt_succ_iff

/-- All settings are read, or the first of those that fail is the error. -/
theorem reads (env : Environment) (host : UInt32) :
    env.Reads Setting.inOrder (read env host) (IsReadFrom · env host) := by
  have hamount : ∀ s n, readPositive? word64Max s = some n ↔ Text.IsNumeral s n ∧ 0 < n ∧ n ≤ word64Max :=
    fun _ _ => readPositive?_eq_some_iff
  have hflag := env.reads_variable .metricsEnabled true (fun _ _ => readFlag?_eq_some_iff) fun _ => Iff.rfl
  have hport := env.reads_variable .metricsPort defaultPort (fun _ _ => readPort?_eq_some_iff) admits_port
  have hunits := env.reads_variable .computingUnits host (fun _ _ => readUnits?_eq_some_iff) admits_units
  have hinterval := env.reads_variable .snapshotInterval defaultInterval hamount admits_amount
  have hqueue := env.reads_variable .listenerQueue defaultQueue hamount admits_amount
  refine hflag.bind fun flag cflag => ?_
  refine hport.bind fun port cport => ?_
  refine hunits.bind fun units cunits => ?_
  refine hinterval.bind fun interval cinterval => ?_
  refine hqueue.bind fun queue cqueue => ?_
  exact Environment.reads_pure ⟨cflag, cport, cunits, cinterval, cqueue⟩

theorem IsReadFrom.computingUnits_pos {settings : Settings} {env : Environment} {host : UInt32}
    (h : settings.IsReadFrom env host) (hhost : 0 < host) : 0 < settings.computingUnits := by
  have hunits := h.computingUnits
  unfold Variable.ComesTo at hunits
  split at hunits
  · exact hunits.2
  · rwa [hunits]
  · rwa [hunits]

theorem IsReadFrom.listenerQueue_pos {settings : Settings} {env : Environment} {host : UInt32}
    (h : settings.IsReadFrom env host) : 0 < settings.listenerQueue := by
  have hqueue := h.listenerQueue
  unfold Variable.ComesTo at hqueue
  split at hqueue
  · exact hqueue.2.1
  · rw [hqueue]
    decide
  · rw [hqueue]
    decide

/-- Settings are read exactly if no variable holds a text that its setting does not admit; else the error names the
first that does. A coordinator can be started with what was read. -/
theorem read_by_grammar_and_built (env : Environment) (host : UInt32) (hhost : 0 < host) :
    ((∃ settings, read env host = .ok settings) ↔ ∀ setting, env.Suits setting) ∧
      (∀ settings, read env host = .ok settings → settings.IsReadFrom env host) ∧
      (∀ e, read env host = .error e → env.FirstUnsuited Setting.inOrder e.setting ∧
        e.message = "invalid value for " ++ e.setting.variableName ++ ": " ++ e.setting.requirement) ∧
      (∀ settings, read env host = .ok settings → ∀ host', ∃ plan coordinator,
        (({} : Setup).withSettings settings).build host' = .ok plan ∧ plan.start = .ok coordinator ∧
        plan.node.cpuUnits = .ok settings.computingUnits.toNat ∧ plan.listenerQueue = settings.listenerQueue ∧
        plan.metricsEnabled = settings.metricsEnabled ∧ plan.metricsPort = settings.metricsPort ∧
        coordinator.node = plan.node ∧ coordinator.metricsEnabled = settings.metricsEnabled ∧
        coordinator.port? = if settings.metricsEnabled then some settings.metricsPort else none) := by
  have hreads := reads env host
  have hread : ∀ settings, read env host = .ok settings → settings.IsReadFrom env host := by
    intro settings h
    rw [h] at hreads
    exact hreads.of_ok
  refine ⟨?_, hread, ?_, ?_⟩
  · rw [hreads.exists_ok_iff]
    exact ⟨fun h setting => h setting (Setting.mem_inOrder setting), fun h setting _ => h setting⟩
  · intro e h
    rw [h] at hreads
    exact ⟨hreads, rfl⟩
  · intro settings h host'
    have hbuild := ({} : Setup).build_withSettings (hread settings h).listenerQueue_pos
      ((hread settings h).computingUnits_pos hhost) host'
    have hcpus := Setup.cpuUnits_withCpus settings.computingUnits
    obtain ⟨table, hstart, -⟩ := Plan.start_of_cpuUnits (p := ⟨.node (.withCpus settings.computingUnits), none,
      settings.listenerQueue, settings.metricsEnabled, settings.metricsPort⟩) hcpus
    exact ⟨_, _, hbuild, hstart, hcpus, rfl, rfl, rfl, rfl, rfl, rfl⟩

/-- Three settings are given in loose forms; of two bad ones, the first counts. -/
theorem read_by_grammar_and_built_loose_and_bad :
    let loose : Environment := fun
      | .metricsEnabled => .text " False\t"
      | .metricsPort => .text "+09100"
      | .computingUnits => .unset
      | .snapshotInterval => .text "5"
      | .listenerQueue => .undecodable
    let bad : Environment := fun
      | .metricsPort => .text "65536"
      | .listenerQueue => .text "0"
      | _ => .unset
    (0 : UInt32) < 8 ∧ read loose 8 = .ok ⟨false, 9100, 8, 5, 1024⟩ ∧ (∀ setting, loose.Suits setting) ∧
      (∃ plan, (({} : Setup).withSettings ⟨false, 9100, 8, 5, 1024⟩).build 1 = .ok plan ∧
        plan.node.cpuUnits = .ok 8) ∧
      read bad 8 = .error ⟨.metricsPort⟩ ∧ bad.FirstUnsuited Setting.inOrder .metricsPort := by
  intro loose bad
  have hhost : (0 : UInt32) < 8 := by decide
  have hloose : read loose 8 = .ok ⟨false, 9100, 8, 5, 1024⟩ := by decide +kernel
  have hbad : read bad 8 = .error ⟨.metricsPort⟩ := by decide +kernel
  obtain ⟨hsuits, -, -, hbuilt⟩ := read_by_grammar_and_built loose 8 hhost
  obtain ⟨-, -, hfirst, -⟩ := read_by_grammar_and_built bad 8 hhost
  obtain ⟨plan, -, hbuild, -, hcpus, -⟩ := hbuilt _ hloose 1
  exact ⟨hhost, hloose, hsuits.1 ⟨_, hloose⟩, ⟨plan, hbuild, hcpus⟩, hbad, (hfirst _ hbad).1⟩

end Settings

end TaskCoordination

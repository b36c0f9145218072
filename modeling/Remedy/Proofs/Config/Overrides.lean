import Mathlib.Data.List.ReduceOption
import Remedy.Proofs.Config.Lists

/-!
# What overrides change

An override replaces one setting or adds names to one list, and leaves everything else as it is. The
settings are read one after the other and the first that cannot be read is reported; if all can be
read, there is one combined configuration, and it is validated. Overrides that have been applied
change nothing when they are applied again.
-/

namespace Remedy.Config

variable {α β : Type}

/-! ## The first failure -/

/-- What a step reports if it fails. -/
def failure? : Except Fault α → Option Fault
  | .error e => some e
  | .ok _ => none

theorem failure?_eq_some_iff {x : Except Fault α} {e : Fault} :
    failure? x = some e ↔ x = .error e := by
  cases x with
  | error e' => simp [failure?]
  | ok a => simp [failure?]

theorem failure?_bind {x : Except Fault α} {f : α → Except Fault β} {later : Option Fault}
    (h : ∀ a, failure? (f a) = later) : failure? (x >>= f) = (failure? x).or later := by
  cases x with
  | error e => rfl
  | ok a => exact h a

theorem head?_reduceOption_cons (x : Option α) (xs : List (Option α)) :
    (x :: xs).reduceOption.head? = x.or xs.reduceOption.head? := by
  cases x with
  | none => rfl
  | some a => rfl

/-! ## One setting -/

/-- Read a trimmed value, or report it. -/
def reader (read? : String → Option α) (report : String → String) (raw : String) : Except Fault α :=
  match read? (Text.trim raw) with
  | some a => .ok a
  | none => .error (.config (report raw))

/-- A setting after its variable has been looked up. -/
def setting (read? : String → Option α) (report : String → String) (value : Option String)
    (before : α) : Except Fault α :=
  match value with
  | none => .ok before
  | some raw => reader read? report raw

/-- A setting follows its variable: it is what the trimmed value says, and without a value it stays
as it was. -/
def Follows (read? : String → Option α) (value : Option String) (before after : α) : Prop :=
  match value with
  | none => after = before
  | some raw => read? (Text.trim raw) = some after

/-- What is reported of a value that cannot be read. -/
def misread? (read? : String → Option α) (report : String → String) (value : Option String) :
    Option Fault :=
  match value with
  | none => none
  | some raw =>
    match read? (Text.trim raw) with
    | some _ => none
    | none => some (.config (report raw))

theorem Follows.again {read? : String → Option α} {value : Option String} {before after : α}
    (h : Follows read? value before after) : Follows read? value after after := by
  cases value with
  | none => exact rfl
  | some raw => exact h

section Setting

variable {read? : String → Option α} {report : String → String} {value : Option String}

theorem setting_eq_ok_iff {before after : α} :
    setting read? report value before = .ok after ↔ Follows read? value before after := by
  cases value with
  | none =>
    constructor
    · intro h
      cases h
      exact rfl
    · intro h
      exact congrArg Except.ok h.symm
  | some raw =>
    rw [setting, reader, Follows]
    cases read? (Text.trim raw) with
    | none => simp
    | some a => simp

theorem misread?_eq (before : α) :
    misread? read? report value = failure? (setting read? report value before) := by
  cases value with
  | none => rfl
  | some raw =>
    rw [misread?, setting, reader]
    cases read? (Text.trim raw) with
    | none => rfl
    | some a => rfl

end Setting

section Override

variable (lookup : String → Option String) (key : String) {c : Config}

/-- An override of one setting, where putting the setting back as it was changes nothing. -/
theorem override_setting_bind (read? : String → Option α) (report : String → String)
    (put : Config → α → Config) {before : α} (back : put c before = c)
    (rest : Config → Except Fault β) :
    (override lookup key (fun c raw => do return put c (← reader read? report raw)) c >>= rest) =
      setting read? report (lookup key) before >>= fun a => rest (put c a) := by
  rw [override]
  cases lookup key with
  | none => exact congrArg rest back.symm
  | some raw => exact (bind_assoc _ _ _).trans (bind_congr fun a => pure_bind _ _)

/-- The names of a list after its variable has been looked up. -/
def united (names : NameSet) (value : Option String) : NameSet :=
  match value with
  | none => names
  | some raw => addListed names raw

theorem contains_united (names : NameSet) (value : Option String) (name : String) :
    (united names value).contains name = true ↔
      names.contains name = true ∨ ∃ raw, value = some raw ∧ Lists raw name := by
  cases value with
  | none => simp [united]
  | some raw => simp [united, contains_addListed]

theorem override_list_bind (get : Config → NameSet) (put : Config → NameSet → Config)
    (back : put c (get c) = c) (rest : Config → Except Fault β) :
    (override lookup key (fun c raw => .ok (put c (addListed (get c) raw))) c >>= rest) =
      rest (put c (united (get c) (lookup key))) := by
  rw [override]
  cases lookup key with
  | none => exact congrArg rest back.symm
  | some raw => rfl

end Override

/-! ## All of them -/

def cannotParse (key raw : String) : String := key ++ ": cannot parse '" ++ raw ++ "'"

/-- Letters do not differ by their case. -/
def lowered (s : String) : String := String.ofList (s.toList.map Char.toLower)

def risk? (word : String) : Option RiskLevel := RiskLevel.ofName? (lowered word)

def unknownRisk (raw : String) : String :=
  Variable.maxAutoRisk ++ ": unknown risk level '" ++ lowered (Text.trim raw) ++ "'"

theorem parse_eq (read? : String → Option α) (key : String) :
    parse read? key = reader read? (cannotParse key) :=
  rfl

theorem parseRisk_eq : parseRisk = reader risk? unknownRisk := by
  funext raw
  simp only [parseRisk, reader, risk?, unknownRisk, lowered]
  cases RiskLevel.ofName? (String.ofList ((Text.trim raw).toList.map Char.toLower)) with
  | none => rfl
  | some r => rfl

/-- The configuration before it is validated. -/
def combined (c : Config) (lookup : String → Option String) : Except Fault Config := do
  let windowSeconds ← setting word64? (cannotParse Variable.window) (lookup Variable.window)
    c.blastRadius.windowSeconds
  let maxAttemptsPerWindow ← setting word32? (cannotParse Variable.maxAttempts)
    (lookup Variable.maxAttempts) c.blastRadius.maxAttemptsPerWindow
  let maxConcurrentPerTarget ← setting word32? (cannotParse Variable.maxConcurrent)
    (lookup Variable.maxConcurrent) c.blastRadius.maxConcurrentPerTarget
  let minConfidence ← setting Decimal.float? (cannotParse Variable.minConfidence)
    (lookup Variable.minConfidence) c.validation.minConfidence
  let maxAutoRisk ← setting risk? unknownRisk (lookup Variable.maxAutoRisk) c.validation.maxAutoRisk
  return {
    blastRadius :=
      { c.blastRadius with windowSeconds, maxAttemptsPerWindow, maxConcurrentPerTarget }
    blacklist :=
      { c.blacklist with
        services := united c.blacklist.services (lookup Variable.services)
        namespaces := united c.blacklist.namespaces (lookup Variable.namespaces)
        repositories := united c.blacklist.repositories (lookup Variable.repositories) }
    validation := { c.validation with minConfidence, maxAutoRisk }
    rerun := c.rerun }

theorem withOverrides_eq (c : Config) (lookup : String → Option String) :
    c.withOverrides lookup = (do
      let c ← c.combined lookup
      c.validate
      return c) := by
  rw [combined, withOverrides]
  simp only [parse_eq, parseRisk_eq, bind_assoc, pure_bind]
  -- Lists cannot fail, so both sides have the same five steps, which differ in their names only.
  refine (override_setting_bind lookup _ word64? _
    (fun c windowSeconds => { c with blastRadius := { c.blastRadius with windowSeconds } })
    rfl _).trans (bind_congr fun windowSeconds => ?_)
  refine (override_setting_bind lookup _ word32? _
    (fun c maxAttemptsPerWindow =>
      { c with blastRadius := { c.blastRadius with maxAttemptsPerWindow } })
    rfl _).trans (bind_congr fun maxAttemptsPerWindow => ?_)
  refine (override_setting_bind lookup _ word32? _
    (fun c maxConcurrentPerTarget =>
      { c with blastRadius := { c.blastRadius with maxConcurrentPerTarget } })
    rfl _).trans (bind_congr fun maxConcurrentPerTarget => ?_)
  refine (override_list_bind lookup _ (·.blacklist.services)
    (fun c services => { c with blacklist := { c.blacklist with services } }) rfl _).trans ?_
  refine (override_list_bind lookup _ (·.blacklist.namespaces)
    (fun c namespaces => { c with blacklist := { c.blacklist with namespaces } }) rfl _).trans ?_
  refine (override_list_bind lookup _ (·.blacklist.repositories)
    (fun c repositories => { c with blacklist := { c.blacklist with repositories } })
    rfl _).trans ?_
  refine (override_setting_bind lookup _ Decimal.float? _
    (fun c minConfidence => { c with validation := { c.validation with minConfidence } })
    rfl _).trans (bind_congr fun minConfidence => ?_)
  exact override_setting_bind lookup _ risk? _
    (fun c maxAutoRisk => { c with validation := { c.validation with maxAutoRisk } }) rfl _

/-! ## What is combined -/

/-- The names that a variable adds to a list: those that were there stay, and no
others are added. -/
def Joins (value : Option String) (before after : NameSet) : Prop :=
  ∀ name, after.contains name = true ↔
    before.contains name = true ∨ ∃ raw, value = some raw ∧ Lists raw name

theorem Joins.again {value : Option String} {before after : NameSet}
    (h : Joins value before after) : Joins value after after := by
  intro name
  constructor
  · exact .inl
  · rintro (held | added)
    · exact held
    · exact (h name).2 (.inr added)

theorem joins_iff {value : Option String} {before after : NameSet} :
    Joins value before after ↔ after = united before value := by
  constructor
  · intro h
    apply NameSet.eq_of_contains
    intro name
    rw [contains_united]
    exact h name
  · rintro rfl
    exact contains_united before value

/-- A configuration as overrides make it of another one: every setting that has a variable follows
it, every list is joined by the names of its variable, and everything else is the same. -/
structure Overridden (lookup : String → Option String) (before after : Config) : Prop where
  window : Follows word64? (lookup Variable.window)
    before.blastRadius.windowSeconds after.blastRadius.windowSeconds
  maxAttempts : Follows word32? (lookup Variable.maxAttempts)
    before.blastRadius.maxAttemptsPerWindow after.blastRadius.maxAttemptsPerWindow
  maxConcurrent : Follows word32? (lookup Variable.maxConcurrent)
    before.blastRadius.maxConcurrentPerTarget after.blastRadius.maxConcurrentPerTarget
  keyPolicy : after.blastRadius.keyPolicy = before.blastRadius.keyPolicy
  services : Joins (lookup Variable.services)
    before.blacklist.services after.blacklist.services
  namespaces : Joins (lookup Variable.namespaces)
    before.blacklist.namespaces after.blacklist.namespaces
  repositories : Joins (lookup Variable.repositories)
    before.blacklist.repositories after.blacklist.repositories
  escalate : after.blacklist.escalate = before.blacklist.escalate
  minConfidence : Follows Decimal.float? (lookup Variable.minConfidence)
    before.validation.minConfidence after.validation.minConfidence
  maxAutoRisk : Follows risk? (lookup Variable.maxAutoRisk)
    before.validation.maxAutoRisk after.validation.maxAutoRisk
  durationTolerance : after.validation.durationTolerance = before.validation.durationTolerance
  rerun : after.rerun = before.rerun

theorem Overridden.again {lookup : String → Option String} {before after : Config}
    (h : Overridden lookup before after) : Overridden lookup after after where
  window := h.window.again
  maxAttempts := h.maxAttempts.again
  maxConcurrent := h.maxConcurrent.again
  keyPolicy := rfl
  services := h.services.again
  namespaces := h.namespaces.again
  repositories := h.repositories.again
  escalate := rfl
  minConfidence := h.minConfidence.again
  maxAutoRisk := h.maxAutoRisk.again
  durationTolerance := rfl
  rerun := rfl

theorem combined_eq_ok_iff {base c : Config} {lookup : String → Option String} :
    base.combined lookup = .ok c ↔ Overridden lookup base c := by
  simp only [combined, bind_eq_ok_iff, setting_eq_ok_iff]
  constructor
  · rintro ⟨window, hwindow, attempts, hattempts, concurrent, hconcurrent, confidence, hconfidence,
      risk, hrisk, same⟩
    cases same
    exact ⟨hwindow, hattempts, hconcurrent, rfl, joins_iff.2 rfl, joins_iff.2 rfl, joins_iff.2 rfl,
      rfl, hconfidence, hrisk, rfl, rfl⟩
  · intro h
    refine ⟨_, h.window, _, h.maxAttempts, _, h.maxConcurrent, _, h.minConfidence, _, h.maxAutoRisk,
      ?_⟩
    rw [← joins_iff.1 h.services, ← joins_iff.1 h.namespaces, ← joins_iff.1 h.repositories]
    obtain ⟨⟨_, _, _, policy⟩, ⟨_, _, _, escalate⟩, ⟨_, _, tolerance⟩, rerun⟩ := c
    obtain ⟨_, _, _, rfl, _, _, _, rfl, _, _, rfl, rfl⟩ := h
    rfl

/-- What is reported of the settings that cannot be read, in the order in which they are read. -/
def misreadings (lookup : String → Option String) : List Fault :=
  [misread? word64? (cannotParse Variable.window) (lookup Variable.window),
    misread? word32? (cannotParse Variable.maxAttempts) (lookup Variable.maxAttempts),
    misread? word32? (cannotParse Variable.maxConcurrent) (lookup Variable.maxConcurrent),
    misread? Decimal.float? (cannotParse Variable.minConfidence) (lookup Variable.minConfidence),
    misread? risk? unknownRisk (lookup Variable.maxAutoRisk)].reduceOption

/-- The first setting that cannot be read is reported. -/
theorem failure?_combined (base : Config) (lookup : String → Option String) :
    failure? (base.combined lookup) = (misreadings lookup).head? := by
  simp only [misreadings, head?_reduceOption_cons, combined]
  rw [misread?_eq base.blastRadius.windowSeconds,
    misread?_eq base.blastRadius.maxAttemptsPerWindow,
    misread?_eq base.blastRadius.maxConcurrentPerTarget, misread?_eq base.validation.minConfidence,
    misread?_eq base.validation.maxAutoRisk]
  refine failure?_bind fun windowSeconds => ?_
  refine failure?_bind fun maxAttemptsPerWindow => ?_
  refine failure?_bind fun maxConcurrentPerTarget => ?_
  refine failure?_bind fun minConfidence => ?_
  exact failure?_bind fun maxAutoRisk => rfl

theorem combined_eq_error_iff {base : Config} {lookup : String → Option String} {e : Fault} :
    base.combined lookup = .error e ↔ (misreadings lookup).head? = some e := by
  rw [← failure?_combined base, failure?_eq_some_iff]

/-- If every setting can be read there is a combined configuration. -/
theorem misreadings_eq_nil_iff {base : Config} {lookup : String → Option String} :
    misreadings lookup = [] ↔ ∃ c, Overridden lookup base c := by
  rw [← List.head?_eq_none_iff, ← failure?_combined base]
  cases made : base.combined lookup with
  | error e =>
    constructor
    · intro none
      cases none
    · rintro ⟨c, h⟩
      rw [combined_eq_ok_iff.2 h] at made
      cases made
  | ok c => exact ⟨fun _ => ⟨c, combined_eq_ok_iff.1 made⟩, fun _ => rfl⟩

theorem withOverrides_eq_ok_iff {base c : Config} {lookup : String → Option String} :
    base.withOverrides lookup = .ok c ↔ Overridden lookup base c ∧ c.validate = .ok () := by
  rw [withOverrides_eq, bind_eq_ok_iff]
  constructor
  · rintro ⟨c', made, checked⟩
    obtain ⟨⟨⟩, valid, same⟩ := bind_eq_ok_iff.1 checked
    cases same
    exact ⟨combined_eq_ok_iff.1 made, valid⟩
  · rintro ⟨h, valid⟩
    exact ⟨c, combined_eq_ok_iff.2 h, bind_eq_ok_iff.2 ⟨(), valid, rfl⟩⟩

theorem withOverrides_eq_error_iff {base : Config} {lookup : String → Option String} {e : Fault} :
    base.withOverrides lookup = .error e ↔
      (misreadings lookup).head? = some e ∨
        ∃ c, Overridden lookup base c ∧ c.validate = .error e := by
  rw [withOverrides_eq, bind_eq_error_iff, combined_eq_error_iff]
  refine or_congr Iff.rfl ?_
  constructor
  · rintro ⟨c, made, checked⟩
    rcases bind_eq_error_iff.1 checked with invalid | ⟨⟨⟩, -, returned⟩
    · exact ⟨c, combined_eq_ok_iff.1 made, invalid⟩
    · cases returned
  · rintro ⟨c, h, invalid⟩
    exact ⟨c, combined_eq_ok_iff.2 h, bind_eq_error_iff.2 (.inl invalid)⟩

/-- No name is taken off a list. -/
structure Tightens (before after : Blacklist) : Prop where
  services : ∀ name, before.services.contains name = true → after.services.contains name = true
  namespaces :
    ∀ name, before.namespaces.contains name = true → after.namespaces.contains name = true
  repositories :
    ∀ name, before.repositories.contains name = true → after.repositories.contains name = true

theorem Overridden.tightens {lookup : String → Option String} {before after : Config}
    (h : Overridden lookup before after) : Tightens before.blacklist after.blacklist where
  services name held := (h.services name).2 (.inl held)
  namespaces name held := (h.namespaces name).2 (.inl held)
  repositories name held := (h.repositories name).2 (.inl held)

theorem Overridden.unique {lookup : String → Option String} {base c c' : Config}
    (h : Overridden lookup base c) (h' : Overridden lookup base c') : c = c' := by
  have made := combined_eq_ok_iff.2 h
  rw [combined_eq_ok_iff.2 h'] at made
  cases made
  rfl

/-- Overrides replace the settings that they name and add the names that they list, and touch
nothing else; applied again they change nothing. They fail with the first setting that cannot be
read, or else with what is wrong with the one configuration that they make. Every set of names that
can stand in a list is read as it was written. -/
theorem overrides_touch_what_they_name (base : Config) (lookup : String → Option String) :
    (∀ c, base.withOverrides lookup = .ok c ↔
      Overridden lookup base c ∧ c.validate = .ok ()) ∧
    (∀ c, base.withOverrides lookup = .ok c →
      Tightens base.blacklist c.blacklist ∧ c.withOverrides lookup = .ok c) ∧
    (∀ e, base.withOverrides lookup = .error e ↔
      (misreadings lookup).head? = some e ∨
        misreadings lookup = [] ∧ ∃ c, Overridden lookup base c ∧ c.validate = .error e) ∧
    (misreadings lookup = [] → ∃! c, Overridden lookup base c) ∧
    ∀ names parts, (∀ name, NameSet.contains names name = true → Listable name) →
      Enumerates parts names → addListed Dict.empty (",".intercalate parts) = names := by
  refine ⟨fun c => withOverrides_eq_ok_iff, ?_, ?_, ?_, ?_⟩
  · intro c h
    obtain ⟨made, valid⟩ := withOverrides_eq_ok_iff.1 h
    exact ⟨made.tightens, withOverrides_eq_ok_iff.2 ⟨made.again, valid⟩⟩
  · intro e
    rw [withOverrides_eq_error_iff]
    constructor
    · rintro (misread | ⟨c, made, invalid⟩)
      · exact .inl misread
      · exact .inr ⟨misreadings_eq_nil_iff.2 ⟨c, made⟩, c, made, invalid⟩
    · rintro (misread | ⟨-, invalid⟩)
      · exact .inl misread
      · exact .inr invalid
  · intro none
    obtain ⟨c, made⟩ := misreadings_eq_nil_iff.1 none
    exact ⟨c, made, fun c' made' => made'.unique made⟩
  · intro names parts listable enumerates
    exact enumerates.addListed_empty listable

/-- A window of a minute, and two names with an empty part between them. -/
def paymentsOverrides (key : String) : Option String :=
  if key = Variable.window then some " 60 "
  else if key = Variable.services then some " payments ,,api"
  else none

theorem overrides_touch_what_they_name_for_payments :
    (∃ c, standard.withOverrides paymentsOverrides = .ok c ∧ c.blastRadius.windowSeconds = 60 ∧
      Tightens standard.blacklist c.blacklist ∧ c.withOverrides paymentsOverrides = .ok c) ∧
    addListed Dict.empty " payments ,,api" = NameSet.ofList ["api", "payments"] := by
  obtain ⟨-, stays, -, -, listed⟩ := overrides_touch_what_they_name standard paymentsOverrides
  constructor
  · have made : ∃ c, standard.withOverrides paymentsOverrides = .ok c ∧
        c.blastRadius.windowSeconds = 60 := ⟨_, rfl, rfl⟩
    obtain ⟨c, made, minute⟩ := made
    exact ⟨c, made, minute, stays c made⟩
  · have among (name : String)
        (held : NameSet.contains (NameSet.ofList ["api", "payments"]) name = true) :
        name = "api" ∨ name = "payments" := by
      rcases (NameSet.contains_foldl_insert ["api", "payments"] Dict.empty name).1 held with
        none | among
      · exact absurd none (NameSet.not_contains_empty name)
      · simpa using among
    refine listed (NameSet.ofList ["api", "payments"]) [" payments ", "", "api"] ?_ ⟨?_, ?_⟩
    · intro name held
      rcases among name held with rfl | rfl
      · exact ⟨by decide, by decide, by decide⟩
      · exact ⟨by decide, by decide, by decide⟩
    · intro part there
      simp only [List.mem_cons, List.not_mem_nil, or_false] at there
      rcases there with rfl | rfl | rfl
      · exact .inr ⟨"payments", by decide, " ", " ", by decide, by decide, by decide⟩
      · exact .inl (by decide)
      · exact .inr ⟨"api", by decide, "", "", by decide, by decide, by decide⟩
    · intro name held
      rcases among name held with rfl | rfl
      · exact ⟨"api", by decide, "", "", by decide, by decide, by decide⟩
      · exact ⟨" payments ", by decide, " ", " ", by decide, by decide, by decide⟩

end Remedy.Config

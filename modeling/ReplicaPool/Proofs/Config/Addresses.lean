import Mathlib.Data.List.TakeWhile
import ReplicaPool.Config.Basic
import ReplicaPool.Proofs.Number.Digits

/-!
# Addresses of configurations

An address is a host and a port on both sides of its last colon. A configuration whose other settings are
valid is valid if it has addresses and each of them is one, and the fault of any other is its first address
that is none. The port is what is read as an unsigned 16-bit word, so a plus sign may stand in front of it.
-/

namespace ReplicaPool

variable {text host port : List Char} {addr : String} {config : Config}

/-! ### The last colon -/

theorem splitAddr?_append (host : List Char) (hport : ':' ∉ port) :
    splitAddr? (host ++ ':' :: port) = some (host, port) := by
  have hother : ∀ c ∈ port.reverse, (c != ':') = true := by
    intro c hmem
    rw [List.mem_reverse] at hmem
    exact bne_iff_ne.mpr fun hcolon => hport (hcolon ▸ hmem)
  have hreversed : (host ++ ':' :: port).reverse = port.reverse ++ ':' :: host.reverse := by simp
  unfold splitAddr?
  dsimp only
  rw [hreversed, List.dropWhile_append_of_pos hother, List.takeWhile_append_of_pos hother]
  simp

theorem splitAddr?_of_notMem (hcolon : ':' ∉ text) : splitAddr? text = none := by
  have hother : ∀ c ∈ text.reverse, (c != ':') = true := by
    intro c hmem
    rw [List.mem_reverse] at hmem
    exact bne_iff_ne.mpr fun heq => hcolon (heq ▸ hmem)
  unfold splitAddr?
  dsimp only
  rw [List.dropWhile_eq_nil_iff.mpr hother]

theorem exists_last_colon (hcolon : ':' ∈ text) :
    ∃ host port, text = host ++ ':' :: port ∧ ':' ∉ port := by
  obtain ⟨port, host, hreversed, hport⟩ :=
    List.eq_append_cons_of_mem (List.mem_reverse.mpr hcolon)
  refine ⟨host.reverse, port.reverse, ?_, by simpa using hport⟩
  rw [← List.reverse_reverse text, hreversed]
  simp

theorem splitAddr?_eq_some_iff :
    splitAddr? text = some (host, port) ↔ text = host ++ ':' :: port ∧ ':' ∉ port := by
  constructor
  · intro hsplit
    by_cases hcolon : ':' ∈ text
    · obtain ⟨before, after, rfl, hafter⟩ := exists_last_colon hcolon
      rw [splitAddr?_append before hafter] at hsplit
      cases hsplit
      exact ⟨rfl, hafter⟩
    · rw [splitAddr?_of_notMem hcolon] at hsplit
      cases hsplit
  · rintro ⟨rfl, hport⟩
    exact splitAddr?_append host hport

/-! ### Endpoints -/

/-- A host and a port of some form on both sides of the last colon. -/
def IsEndpoint (IsPort : List Char → Prop) (addr : String) : Prop :=
  ∃ host port, addr.toList = host ++ ':' :: port ∧ ':' ∉ port ∧ host ≠ [] ∧ IsPort port

/-- Decimal digits that denote a number of at most 65535. -/
def IsPort (port : List Char) : Prop :=
  port ≠ [] ∧ (∀ c ∈ port, c.isDigit = true) ∧ Nat.ofDigitChars 10 port 0 ≤ 65535

def IsPlusPort (port : List Char) : Prop :=
  ∃ digits, port = '+' :: digits ∧ IsPort digits

theorem isPort_iff : IsPort port ↔ IsNumeral 16 port := by
  have hbound : ∀ value, value ≤ 65535 ↔ value < wordCount 16 := fun value => Nat.lt_succ_iff.symm
  rw [IsPort, hbound]
  exact ⟨fun ⟨hne, hdigits, hlt⟩ => ⟨hne, hdigits, hlt⟩, fun ⟨hne, hdigits, hlt⟩ => ⟨hne, hdigits, hlt⟩⟩

def IsAccepted (addr : String) : Prop :=
  IsEndpoint IsPort addr ∨ IsEndpoint IsPlusPort addr

theorem isEndpoint_iff {IsForm : List Char → Prop} :
    IsEndpoint IsForm addr ↔
      ∃ host port, splitAddr? addr.toList = some (host, port) ∧ host ≠ [] ∧ IsForm port := by
  simp only [IsEndpoint, splitAddr?_eq_some_iff, and_assoc]

theorem isAddr_iff : isAddr addr = true ↔ IsAccepted addr := by
  have hword : ∀ port, (unsignedWord? 16 port).isSome = true ↔ IsPort port ∨ IsPlusPort port := by
    intro port
    simp only [unsignedWord?_isSome_iff, IsPlusPort, isPort_iff]
  rw [isAddr, IsAccepted, isEndpoint_iff, isEndpoint_iff]
  cases splitAddr? addr.toList with
  | none => simp
  | some sides =>
      obtain ⟨host, port⟩ := sides
      simp [hword, and_or_left]

/-! ### Validation -/

namespace Config

structure OthersValid (config : Config) : Prop where
  checkInterval : config.pool.checkIntervalMs ≠ 0
  probeTimeout : config.pool.probeTimeoutMs ≠ 0
  discoveryFunction : ∀ name ∈ config.pool.discoveryFunction, isBlankText name = false
  level : config.logging.level ∈ logLevels
  format : config.logging.format ∈ logFormats

theorem validate_of_nil (hnil : config.pool.addrs = []) : config.validate = .error .emptyAddrs := by
  rw [validate, hnil]
  rfl

theorem validate_of_refused {before rest : List String}
    (haddrs : config.pool.addrs = before ++ addr :: rest)
    (hbefore : ∀ other ∈ before, isAddr other = true) (haddr : isAddr addr = false) :
    config.validate = .error (.validation ("Invalid instance address: " ++ addr)) := by
  have hfirst : config.pool.addrs.find? (fun other => !isAddr other) = some addr := by
    rw [haddrs, List.find?_append, List.find?_eq_none.mpr (by simpa using hbefore), Option.none_or,
      List.find?_cons_of_pos (by rw [haddr]; rfl)]
  have hne : config.pool.addrs.isEmpty = false := by simp [haddrs]
  rw [validate, hne, hfirst]
  rfl

theorem validate_of_addrs (hne : config.pool.addrs ≠ [])
    (haddrs : ∀ addr ∈ config.pool.addrs, isAddr addr = true) :
    config.validate = .ok () ↔ config.OthersValid := by
  have hnone : config.pool.addrs.find? (fun other => !isAddr other) = none :=
    List.find?_eq_none.mpr (by simpa using haddrs)
  rw [validate, hnone, List.isEmpty_eq_false_iff.mpr hne, if_neg Bool.false_ne_true]
  dsimp only
  constructor
  · intro hvalid
    split_ifs at hvalid with hcheck hprobe hfunction hlevel hformat
    refine ⟨hcheck, hprobe, ?_, by simpa using hlevel, by simpa using hformat⟩
    intro name hname
    rw [Option.mem_def] at hname
    simpa [hname] using hfunction
  · intro hothers
    have hfunction : config.pool.discoveryFunction.any isBlankText = false := by
      cases hname : config.pool.discoveryFunction with
      | none => rfl
      | some name => exact hothers.discoveryFunction name hname
    simp [hothers.checkInterval, hothers.probeTimeout, hfunction, hothers.level, hothers.format]

theorem validate_eq_ok_iff :
    config.validate = .ok () ↔
      config.pool.addrs ≠ [] ∧ (∀ addr ∈ config.pool.addrs, IsAccepted addr) ∧ config.OthersValid := by
  simp only [← isAddr_iff]
  by_cases hnil : config.pool.addrs = []
  · simp [validate_of_nil hnil, hnil]
  by_cases haddrs : ∀ addr ∈ config.pool.addrs, isAddr addr = true
  · rw [validate_of_addrs hnil haddrs]
    exact ⟨fun hothers => ⟨hnil, haddrs, hothers⟩, fun hall => hall.2.2⟩
  · obtain ⟨addr, hfirst⟩ := Option.isSome_iff_exists.mp (List.find?_isSome.mpr
      (show ∃ addr ∈ config.pool.addrs, (!isAddr addr) = true by simpa using haddrs))
    obtain ⟨haddr, before, rest, hsplit, hbefore⟩ := List.find?_eq_some_iff_append.mp hfirst
    rw [validate_of_refused hsplit (by simpa using hbefore) (by simpa using haddr)]
    exact iff_of_false (by simp) fun hall => haddrs hall.2.1

/-- What is wrong with the addresses is found before any other fault, and at the first of them. They are
right if there are any and each one is a host and a port, where a plus sign may stand before the digits. -/
theorem validate_addrs (config : Config) :
    (config.pool.addrs = [] → config.validate = .error .emptyAddrs) ∧
    (∀ before addr rest, config.pool.addrs = before ++ addr :: rest →
      (∀ other ∈ before, IsAccepted other) → ¬IsAccepted addr →
        config.validate = .error (.validation ("Invalid instance address: " ++ addr))) ∧
    (config.validate = .ok () ↔
      config.pool.addrs ≠ [] ∧ (∀ addr ∈ config.pool.addrs, IsAccepted addr) ∧ config.OthersValid) := by
  refine ⟨validate_of_nil, fun before addr rest haddrs hbefore haddr => ?_, validate_eq_ok_iff⟩
  refine validate_of_refused haddrs (fun other hmem => isAddr_iff.mpr (hbefore other hmem)) ?_
  rwa [← isAddr_iff, Bool.not_eq_true] at haddr

/-- An address that has several colons, and one whose port is too great. -/
theorem validate_addrs_second :
    Config.validate { pool := { addrs := ["::1:0003301", "localhost:65536", "localhost"] } } =
      .error (.validation "Invalid instance address: localhost:65536") := by
  refine (validate_addrs _).2.1 ["::1:0003301"] "localhost:65536" ["localhost"] rfl ?_ ?_
  · intro other hmem
    rw [List.mem_singleton.mp hmem, ← isAddr_iff]
    decide +kernel
  · rw [← isAddr_iff]
    decide +kernel

/-- A plus sign is no digit, but an address with one is valid. -/
theorem validate_plus_sign :
    ¬∀ config : Config, config.OthersValid →
      (config.validate = .ok () ↔
        config.pool.addrs ≠ [] ∧ ∀ addr ∈ config.pool.addrs, IsEndpoint IsPort addr) := by
  intro hclaim
  let config : Config := { pool := { addrs := ["localhost:+3301"] } }
  have hvalid : config.validate = .ok () := by decide +kernel
  obtain ⟨-, hports⟩ := (hclaim config (validate_eq_ok_iff.mp hvalid).2.2).mp hvalid
  obtain ⟨host, port, hsplit, -, -, hdigits, -⟩ :=
    isEndpoint_iff.mp (hports "localhost:+3301" List.mem_cons_self)
  have hplus : splitAddr? "localhost:+3301".toList = some ("localhost".toList, "+3301".toList) := by
    decide +kernel
  rw [hplus] at hsplit
  obtain ⟨-, rfl⟩ := Prod.mk.inj (Option.some.inj hsplit)
  cases hdigits '+' (by decide +kernel)

end Config

end ReplicaPool

import Tftp.Config.Env
import Mathlib

/-!
# Loaded settings stay in range

Settings are read from JSON text record by record: each field's reader updates the record read so
far. A property that every field reader keeps and that the starting record has holds of the
record read from any text (`readDocument_yields`), whatever the order of the fields, the unknown
ones among them or the form, object or array: a reading that goes wrong gives no record at all.
Numbers are read within the range of their field, so every settings file gives transfer settings
whose timeout fits in 64 bits and whose counts fit in 32, and the environment's overrides keep
them so (`TransferSettings.inRange_serverLoad`, `TransferSettings.inRange_clientLoad`).
-/

namespace Tftp.Json

/-- Every value the reading gives back satisfies `P`. -/
def ReadM.Yields {α : Type} (P : α → Prop) (r : ReadM α) : Prop :=
  ∀ c a c', r c = .ok (a, c') → P a

namespace ReadM.Yields

variable {α β : Type} {P : β → Prop}

theorem pure {a : β} (h : P a) : (Pure.pure a : ReadM β).Yields P := by
  intro c b c' hr
  cases hr
  exact h

theorem bind {Q : α → Prop} {r : ReadM α} {f : α → ReadM β} (hr : r.Yields Q)
    (hf : ∀ a, Q a → (f a).Yields P) : (r >>= f).Yields P := by
  intro c b c' h
  change (r c >>= fun p => f p.1 p.2) = .ok (b, c') at h
  cases hrc : r c with
  | error e => rw [hrc] at h; cases h
  | ok p =>
    rw [hrc] at h
    exact hf p.1 (hr c p.1 p.2 hrc) p.2 b c' h

/-- Whatever the first reading gives, the second decides. -/
theorem bind_of {r : ReadM α} {f : α → ReadM β} (hf : ∀ a, (f a).Yields P) :
    (r >>= f).Yields P :=
  bind (Q := fun _ => True) (fun _ _ _ _ => trivial) fun a _ => hf a

theorem fail (f : Fault) : (Json.fail f : ReadM β).Yields P := by
  intro c b c' h
  simp only [Json.fail] at h
  cases h

theorem failPeek (f : Fault) : (Json.failPeek f : ReadM β).Yields P := by
  intro c b c' h
  simp only [Json.failPeek] at h
  cases h

theorem failData (text : String) : (Json.failData text : ReadM β).Yields P := by
  intro c b c' h
  simp only [Json.failData] at h
  cases h

end ReadM.Yields

open ReadM

/-- Reading a value of the wrong kind fails whatever the value is. -/
theorem invalidType_yields {α : Type} {P : α → Prop} (expected : String) :
    (invalidType expected : ReadM α).Yields P := by
  unfold invalidType
  refine Yields.bind_of fun b => ?_
  dsimp only
  split
  all_goals try split
  all_goals repeat refine Yields.bind_of fun _ => ?_
  all_goals exact Yields.failData _

theorem duplicateField_yields {α : Type} {P : α → Prop} (name : String) :
    (duplicateField name : ReadM α).Yields P := by
  unfold duplicateField
  refine Yields.bind_of fun b => ?_
  dsimp only
  split
  · exact Yields.bind_of fun _ => Yields.failData _
  · exact Yields.failData _

/-- An unsigned number is read only within its bound. -/
theorem readUnsigned_yields (max : Nat) (expected : String) :
    (readUnsigned max expected).Yields (· ≤ max) := by
  unfold readUnsigned
  refine Yields.bind_of fun b => ?_
  dsimp only
  -- after the sign, the number read is given back only when unsigned and within the bound
  split <;> [refine Yields.bind_of fun _ => ?_; split]
  all_goals
    refine Yields.bind_of fun n => ?_
    rcases n with v | v | x
    · dsimp only
      split
      · exact Yields.pure ‹_›
      · exact Yields.failData _
    · exact Yields.failData _
    · exact Yields.failData _

section
variable {α : Type} {P : α → Prop} (shape : Shape α)

/-- Reading a record keeps every property its field readers keep. -/
def Shape.Keeps (P : α → Prop) : Prop := ∀ i a, P a → (shape.field i a).Yields P

variable {shape}

theorem readFieldsByPosition_yields (hshape : shape.Keeps P) {init : α} (h : P init) :
    (readFieldsByPosition shape init).Yields P := by
  unfold readFieldsByPosition
  -- the loop over the fields in order, from any record that has the property
  suffices hgo : ∀ (is : List Nat) (first : Bool) (acc : α), P acc →
      (readFieldsByPosition.go shape is first acc).Yields P from hgo _ true init h
  intro is
  induction is with
  | nil => exact fun _ _ hacc => Yields.pure hacc
  | cons i is ih =>
    intro first acc hacc
    unfold readFieldsByPosition.go
    refine Yields.bind_of fun more => ?_
    cases more with
    | true => exact Yields.bind (hshape i acc hacc) fun acc' hacc' => ih false acc' hacc'
    | false => exact Yields.pure hacc

theorem readFieldsByName_yields (hshape : shape.Keeps P) {init : α} (h : P init) :
    (readFieldsByName shape init).Yields P := by
  unfold readFieldsByName
  refine Yields.bind_of fun fuel => ?_
  -- the loop over the members, by the fuel that bounds it
  suffices hgo : ∀ (fuel : Nat) (first : Bool) (seen : List Nat) (acc : α), P acc →
      (readFieldsByName.go shape fuel first seen acc).Yields P from hgo _ true [] init h
  intro fuel
  induction fuel with
  | zero => exact fun _ _ _ hacc => Yields.pure hacc
  | succ fuel ih =>
    intro first seen acc hacc
    unfold readFieldsByName.go
    refine Yields.bind_of fun key => ?_
    cases key with
    | none => exact Yields.pure hacc
    | some key =>
      dsimp only
      split
      · split
        · exact duplicateField_yields _
        · exact Yields.bind_of fun _ =>
            Yields.bind (hshape _ acc hacc) fun acc' hacc' => ih false _ acc' hacc'
      · exact Yields.bind_of fun _ => Yields.bind_of fun _ => ih false seen acc hacc

theorem readRecord_yields (hshape : shape.Keeps P) {init : α} (h : P init) :
    (readRecord shape init).Yields P := by
  unfold readRecord
  refine Yields.bind_of fun b => ?_
  split
  · exact Yields.bind_of fun _ => Yields.bind (readFieldsByPosition_yields hshape h)
      fun r hr => Yields.bind_of fun _ => Yields.pure hr
  · exact Yields.bind_of fun _ => Yields.bind (readFieldsByName_yields hshape h)
      fun r hr => Yields.bind_of fun _ => Yields.pure hr
  · exact invalidType_yields _

/-- What a whole reading yields, its run from any cursor gives. -/
theorem ReadM.Yields.run {α : Type} {P : α → Prop} {r : ReadM α} (hr : r.Yields P) {c : Cursor} {a : α}
    (h : (r.run c).map (·.1) = .ok a) : P a := by
  cases hrun : r.run c with
  | error e => rw [hrun] at h; cases h
  | ok p =>
    rw [hrun] at h
    cases h
    exact hr c p.1 p.2 hrun

/-- A record read from a whole text has every property its field readers keep and its starting
record has. -/
theorem readDocument_yields (hshape : shape.Keeps P) {init a : α} (h : P init) {text : String}
    (hread : readDocument shape init text = .ok a) : P a := by
  unfold readDocument at hread
  refine Yields.run ?_ hread
  -- the record read, then nothing but white space
  refine Yields.bind (readRecord_yields hshape h) fun r hr => Yields.bind_of fun b => ?_
  cases b with
  | some _ => exact Yields.failPeek _
  | none => exact Yields.pure hr

end

end Tftp.Json

namespace Tftp.Config

open Tftp.Json Tftp.Json.ReadM

/-- Each number of transfer settings within the range of its field: the timeout in 64 bits and
the counts in 32. -/
structure TransferSettings.InRange (t : TransferSettings) : Prop where
  timeoutMs_lt : t.timeoutMs < 2 ^ 64
  recvTries_lt : t.recvTries < 2 ^ 32
  maxRetries_lt : t.maxRetries < 2 ^ 32

theorem TransferSettings.inRange_default : TransferSettings.default.InRange :=
  ⟨by decide, by decide, by decide⟩

theorem lt_of_le_u64Max {v : Nat} (h : v ≤ u64Max) : v < 2 ^ 64 := by
  simp only [u64Max, Nat.pow_eq] at h
  omega

theorem lt_of_le_u32Max {v : Nat} (h : v ≤ u32Max) : v < 2 ^ 32 := by
  simp only [u32Max, Nat.pow_eq] at h
  omega

theorem transferShape_keeps : transferShape.Keeps TransferSettings.InRange := by
  intro i t ht
  rcases i with _ | _ | i
  · exact Yields.bind (readUnsigned_yields _ _) fun v hv =>
      Yields.pure ⟨lt_of_le_u64Max hv, ht.recvTries_lt, ht.maxRetries_lt⟩
  · exact Yields.bind (readUnsigned_yields _ _) fun v hv =>
      Yields.pure ⟨ht.timeoutMs_lt, lt_of_le_u32Max hv, ht.maxRetries_lt⟩
  · exact Yields.bind (readUnsigned_yields _ _) fun v hv =>
      Yields.pure ⟨ht.timeoutMs_lt, ht.recvTries_lt, lt_of_le_u32Max hv⟩

/-- The transfer settings nested in a settings file are read from the defaults. -/
theorem readRecord_transferShape :
    (readRecord transferShape TransferSettings.default).Yields TransferSettings.InRange :=
  readRecord_yields transferShape_keeps TransferSettings.inRange_default

theorem serverShape_keeps : serverShape.Keeps (·.transfer.InRange) := by
  intro i s hs
  rcases i with _ | _ | _ | _ | i
  -- the fields before the transfer settings leave them alone
  iterate 4 exact Yields.bind_of fun _ => Yields.pure hs
  exact Yields.bind readRecord_transferShape fun _ hv => Yields.pure hv

theorem clientShape_keeps : clientShape.Keeps (·.transfer.InRange) := by
  intro i c hc
  rcases i with _ | _ | _ | _ | i
  iterate 4 exact Yields.bind_of fun _ => Yields.pure hc
  exact Yields.bind readRecord_transferShape fun _ hv => Yields.pure hv

/-- A number read from text is within the bound it is read with. -/
theorem le_of_parseUnsigned {max : Nat} {text : String} {n : Nat}
    (h : parseUnsigned max text = some n) : n ≤ max := by
  -- whatever the digits are, the number is given only within the bound
  have hform : ∀ (c : Bool) (k : Nat),
      (if c = true then none else if k ≤ max then some k else none) = some n → n ≤ max := by
    intro c k hk
    split at hk
    · cases hk
    · split at hk
      · exact Option.some.inj hk ▸ ‹_›
      · cases hk
  exact hform _ _ h

theorem le_of_numberVar {env : Env} {max : Nat} {key : String} {n : Nat}
    (h : numberVar env max key = some n) : n ≤ max := by
  obtain ⟨raw, -, hparse⟩ := Option.bind_eq_some_iff.1 h
  exact le_of_parseUnsigned hparse

/-- The environment's overrides keep transfer settings in range. -/
theorem TransferSettings.inRange_applyEnv (env : Env) {t : TransferSettings} (ht : t.InRange) :
    (t.applyEnv env).InRange := by
  obtain ⟨htimeout, htries, hretries⟩ := ht
  have hms : ∀ ms, numberVar env u64Max timeoutVar = some ms → ms < 2 ^ 64 :=
    fun ms h => lt_of_le_u64Max (le_of_numberVar h)
  have hn : ∀ n, numberVar env u32Max maxRetriesVar = some n → max n 1 < 2 ^ 32 := fun n h => by
    have := lt_of_le_u32Max (le_of_numberVar h)
    omega
  unfold TransferSettings.applyEnv
  -- the timeout variable, then the retry variable, each replacing its field when it holds a number
  cases htime : numberVar env u64Max timeoutVar with
  | none =>
    cases hretry : numberVar env u32Max maxRetriesVar with
    | none => exact ⟨htimeout, htries, hretries⟩
    | some n => exact ⟨htimeout, htries, hn n hretry⟩
  | some ms =>
    cases hretry : numberVar env u32Max maxRetriesVar with
    | none => exact ⟨hms ms htime, htries, hretries⟩
    | some n => exact ⟨hms ms htime, htries, hn n hretry⟩

theorem ServerSettings.inRange_ofJson {text : String} {s : ServerSettings}
    (h : ServerSettings.ofJson text = .ok s) : s.transfer.InRange := by
  unfold ServerSettings.ofJson at h
  exact readDocument_yields serverShape_keeps TransferSettings.inRange_default h

theorem ClientSettings.inRange_ofJson {text : String} {c : ClientSettings}
    (h : ClientSettings.ofJson text = .ok c) : c.transfer.InRange := by
  unfold ClientSettings.ofJson at h
  exact readDocument_yields clientShape_keeps TransferSettings.inRange_default h

/-- Every server settings file and environment give transfer settings in range. -/
theorem TransferSettings.inRange_serverLoad (file : Option String) (env : Env) :
    (ServerSettings.load file env).transfer.InRange := by
  unfold ServerSettings.load ServerSettings.applyEnv
  refine TransferSettings.inRange_applyEnv env ?_
  -- the root variable leaves the transfer settings alone; they come from the file when it reads
  split
  all_goals
    split
    · rename_i s hfile
      obtain ⟨text, -, hread⟩ := Option.map_eq_some_iff.1 hfile
      exact (ServerSettings.inRange_ofJson hread :)
    · exact TransferSettings.inRange_default

/-- Every client settings file and environment give transfer settings in range. -/
theorem TransferSettings.inRange_clientLoad (file : Option String) (env : Env) :
    (ClientSettings.load file env).transfer.InRange := by
  unfold ClientSettings.load ClientSettings.applyEnv
  refine TransferSettings.inRange_applyEnv env ?_
  split
  all_goals
    split
    · rename_i c hfile
      obtain ⟨text, -, hread⟩ := Option.map_eq_some_iff.1 hfile
      exact (ClientSettings.inRange_ofJson hread :)
    · exact TransferSettings.inRange_default

end Tftp.Config

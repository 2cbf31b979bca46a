import Mathlib

/-! A map with one checkpoint, and the history of writes it keeps.

`Journal` is the map of a transaction: writes change the `current` map,
`rollback` returns it to the checkpoint `saved`, and `save` moves the checkpoint
to the current map. `History` says the same of the trace of writes: a rollback
discards exactly the writes made since the last save or rollback, and a save
keeps them. A journal tracks a history (`Tracks`) when its two maps are the
writes of the history laid over a base, so that every key reads as its most
recent write that survived (`overwrite_eq`), or as the base if it has none.

Maps that are drained into one another by writing their entries one at a time
are described by the same `overwrite` (`lookup_foldl_insert`).
-/

set_option autoImplicit false

namespace Muta

variable {κ V : Type} [DecidableEq κ]

def overwrite (base : κ → Option V) : List (κ × V) → κ → Option V
  | [] => base
  | (key, value) :: rest => overwrite (Function.update base key (some value)) rest

def lastWrite (writes : List (κ × V)) (key : κ) : Option V :=
  (writes.reverse.find? fun write => write.1 = key).map Prod.snd

@[simp] theorem overwrite_nil (base : κ → Option V) : overwrite base [] = base := rfl

theorem overwrite_append (base : κ → Option V) (first second : List (κ × V)) :
    overwrite base (first ++ second) = overwrite (overwrite base first) second := by
  induction first generalizing base with
  | nil => rfl
  | cons write rest ih => exact ih _

@[simp] theorem lastWrite_nil (key : κ) : lastWrite ([] : List (κ × V)) key = none := rfl

theorem lastWrite_cons (write : κ × V) (rest : List (κ × V)) (key : κ) :
    lastWrite (write :: rest) key =
      (lastWrite rest key).or (if write.1 = key then some write.2 else none) := by
  unfold lastWrite
  rw [List.reverse_cons, List.find?_append]
  cases rest.reverse.find? (fun write => write.1 = key) with
  | some found => rfl
  | none => by_cases same : write.1 = key <;> simp [same]

theorem overwrite_eq (base : κ → Option V) (writes : List (κ × V)) (key : κ) :
    overwrite base writes key = (lastWrite writes key).or (base key) := by
  -- induction on the writes, the base taking each write in turn
  induction writes generalizing base with
  | nil => rfl
  | cons write rest ih =>
    obtain ⟨written, value⟩ := write
    rw [overwrite, ih, lastWrite_cons]
    by_cases same : written = key
    · subst same
      cases lastWrite rest written <;> simp
    · cases lastWrite rest key <;> simp [same, Function.update_of_ne (Ne.symm same)]

/-! ### Draining one map into another -/

theorem lookup_foldl_insert {entries : List (Sigma fun _ : κ => V)} (distinct : entries.NodupKeys)
    (map : AList fun _ : κ => V) (key : κ) :
    (entries.foldl (fun map entry => map.insert entry.1 entry.2) map).lookup key =
      (entries.dlookup key).or (map.lookup key) := by
  induction entries generalizing map with
  | nil => simp
  | cons entry rest ih =>
    obtain ⟨written, value⟩ := entry
    have absent : written ∉ rest.keys := (List.nodupKeys_cons.mp distinct).1
    rw [List.foldl_cons, ih (List.nodupKeys_cons.mp distinct).2]
    by_cases same : key = written
    · subst same
      simp [List.dlookup_eq_none.mpr absent]
    · simp [same, AList.lookup_insert_ne same]

theorem foldl_update {entries : List (Sigma fun _ : κ => V)} (distinct : entries.NodupKeys)
    (map : κ → Option V) (key : κ) :
    (entries.foldl (fun (map : κ → Option V) entry => Function.update map entry.1 (some entry.2))
      map) key =
      (entries.dlookup key).or (map key) := by
  induction entries generalizing map with
  | nil => simp
  | cons entry rest ih =>
    obtain ⟨written, value⟩ := entry
    have absent : written ∉ rest.keys := (List.nodupKeys_cons.mp distinct).1
    rw [List.foldl_cons, ih (List.nodupKeys_cons.mp distinct).2]
    by_cases same : key = written
    · subst same
      simp [List.dlookup_eq_none.mpr absent]
    · simp [same]

/-! ### The journal and its history -/

structure Journal (κ V : Type) where
  saved : κ → Option V
  current : κ → Option V

namespace Journal

def start (base : κ → Option V) : Journal κ V := ⟨base, base⟩

def write (journal : Journal κ V) (key : κ) (value : V) : Journal κ V :=
  { journal with current := Function.update journal.current key (some value) }

def rollback (journal : Journal κ V) : Journal κ V := { journal with current := journal.saved }

def save (journal : Journal κ V) : Journal κ V := { journal with saved := journal.current }

end Journal

/-- The writes of a trace that survive it: those a save kept, and those since
the last save or rollback, each oldest first. -/
structure History (κ V : Type) where
  kept : List (κ × V)
  pending : List (κ × V)

namespace History

def empty : History κ V := ⟨[], []⟩

def write (history : History κ V) (key : κ) (value : V) : History κ V :=
  { history with pending := history.pending ++ [(key, value)] }

def rollback (history : History κ V) : History κ V := { history with pending := [] }

def save (history : History κ V) : History κ V := ⟨history.kept ++ history.pending, []⟩

def survivors (history : History κ V) : List (κ × V) := history.kept ++ history.pending

end History

/-- `journal` is `history` laid over `base`: its checkpoint holds the kept
writes, and its current map every surviving one. -/
def Tracks (base : κ → Option V) (journal : Journal κ V) (history : History κ V) : Prop :=
  journal.saved = overwrite base history.kept ∧ journal.current = overwrite base history.survivors

namespace Tracks

variable {base : κ → Option V} {journal : Journal κ V} {history : History κ V}

theorem start (base : κ → Option V) : Tracks base (Journal.start base) History.empty :=
  ⟨rfl, rfl⟩

theorem write (tracks : Tracks base journal history) (key : κ) (value : V) :
    Tracks base (journal.write key value) (history.write key value) := by
  refine ⟨tracks.1, ?_⟩
  simp only [Journal.write, History.write, History.survivors, tracks.2, ← List.append_assoc,
    overwrite_append]
  rfl

theorem rollback (tracks : Tracks base journal history) :
    Tracks base journal.rollback history.rollback := by
  refine ⟨tracks.1, ?_⟩
  simp [Journal.rollback, History.rollback, History.survivors, tracks.1]

theorem save (tracks : Tracks base journal history) : Tracks base journal.save history.save := by
  refine ⟨tracks.2, ?_⟩
  simp [Journal.save, History.save, History.survivors, tracks.2]

theorem current_eq (tracks : Tracks base journal history) (key : κ) :
    journal.current key = (lastWrite history.survivors key).or (base key) := by
  rw [tracks.2, overwrite_eq]

end Tracks

end Muta

import Muta.Lib.Trace

/-! A ledger of tokens, each issued once with a fixed supply and afterwards only
moved between holders.

A `Book` keeps the supply of every token issued so far and what each place holds
of each token. `Move.apply` issues a fresh token whole to one holder, or moves an
amount a place holds to a different place; where its guard fails the book stays
as it is. `Balanced` says what a ledger is for: the holdings of every token have
finite support and add up to its supply, and nobody holds a token that was never
issued. Every move keeps it (`Balanced.apply`), hence so does every run
(`Balanced.reachable`), and no holder ever has more than the supply
(`Balanced.held_le`). A store refines the ledger by a projection that every one of
its calls carries along some moves (`Trace.Reachable.simulate`).
-/

set_option autoImplicit false

namespace Muta.Ledger

open Function

variable {Token Place : Type} [DecidableEq Token] [DecidableEq Place]

/-! ### Totals of an amount function -/

section Totals

variable {amount : Place → ℕ}

theorem support_update_subset_insert (amount : Place → ℕ) (place : Place) (value : ℕ) :
    support (update amount place value) ⊆ insert place (support amount) := by
  intro other nonzero
  by_cases same : other = place
  · exact Or.inl same
  · rw [mem_support, update_of_ne same] at nonzero
    exact Or.inr nonzero

theorem HasFiniteSupport.update (finite : HasFiniteSupport amount) (place : Place) (value : ℕ) :
    HasFiniteSupport (update amount place value) :=
  Set.Finite.subset (Set.Finite.insert place finite) (support_update_subset_insert amount place value)

theorem finsum_update_add (finite : HasFiniteSupport amount) (place : Place) (value : ℕ) :
    (∑ᶠ p, update amount place value p) + amount place = (∑ᶠ p, amount p) + value := by
  -- Both totals are sums over the holders of `amount` and `place`.
  set holders := insert place (Set.Finite.toFinset finite)
  have inside : place ∈ holders := Finset.mem_insert_self place _
  have covers : Set.Finite.toFinset finite ⊆ holders := Finset.subset_insert place _
  have updated_covers : support (update amount place value) ⊆ holders := by
    intro other nonzero
    rcases support_update_subset_insert amount place value nonzero with same | held
    · rw [same]
      exact inside
    · exact covers (Set.Finite.mem_toFinset finite |>.2 held)
  rw [finsum_eq_sum_of_support_subset _ updated_covers,
    finsum_eq_sum_of_support_toFinset_subset _ finite covers, Finset.sum_update_of_mem inside,
    Finset.sum_eq_add_sum_sdiff_singleton place amount (fun outside => absurd inside outside)]
  omega

theorem finsum_move (finite : HasFiniteSupport amount) {source target : Place}
    (distinct : source ≠ target) {value : ℕ} (enough : value ≤ amount source) :
    ∑ᶠ p, update (update amount target (amount target + value)) source (amount source - value) p =
      ∑ᶠ p, amount p := by
  have credited := finsum_update_add finite target (amount target + value)
  have debited := finsum_update_add (HasFiniteSupport.update finite target (amount target + value))
    source (amount source - value)
  rw [update_of_ne distinct] at debited
  omega

end Totals

/-! ### The ledger -/

structure Book (Token Place : Type) where
  supply : Token → Option ℕ
  held : Token → Place → ℕ

def Book.empty : Book Token Place := ⟨fun _ => none, fun _ _ => 0⟩

namespace Book

def issue (book : Book Token Place) (token : Token) (holder : Place) (supply : ℕ) : Book Token Place :=
  ⟨update book.supply token (some supply), update book.held token (Pi.single holder supply)⟩

def transfer (book : Book Token Place) (token : Token) (source target : Place) (value : ℕ) :
    Book Token Place :=
  { book with
    held := update book.held token
      (update (update (book.held token) target (book.held token target + value)) source
        (book.held token source - value)) }

variable (book : Book Token Place) (token : Token)

@[simp] theorem issue_supply (holder : Place) (supply : ℕ) :
    (book.issue token holder supply).supply = update book.supply token (some supply) := rfl

@[simp] theorem issue_held (holder : Place) (supply : ℕ) :
    (book.issue token holder supply).held = update book.held token (Pi.single holder supply) := rfl

@[simp] theorem transfer_supply (source target : Place) (value : ℕ) :
    (book.transfer token source target value).supply = book.supply := rfl

@[simp] theorem transfer_held (source target : Place) (value : ℕ) :
    (book.transfer token source target value).held = update book.held token
      (update (update (book.held token) target (book.held token target + value)) source
        (book.held token source - value)) := rfl

end Book

inductive Move (Token Place : Type) where
  | issue (token : Token) (holder : Place) (supply : ℕ)
  | move (token : Token) (source target : Place) (value : ℕ)
  deriving DecidableEq, Repr

/-- A fresh token goes whole to its holder; a move between two different places
takes place when the source holds enough. -/
def Move.apply : Move Token Place → Book Token Place → Book Token Place
  | .issue token holder supply, book =>
    if book.supply token = none then book.issue token holder supply else book
  | .move token source target value, book =>
    if source ≠ target ∧ value ≤ book.held token source then book.transfer token source target value
    else book

/-- Every token is held with finite support and adds up to its supply; a token not
issued is held nowhere. -/
structure Balanced (book : Book Token Place) : Prop where
  unissued : ∀ token place, book.supply token = none → book.held token place = 0
  finite : ∀ token, HasFiniteSupport (book.held token)
  total : ∀ token supply, book.supply token = some supply → ∑ᶠ place, book.held token place = supply

omit [DecidableEq Token] [DecidableEq Place] in
theorem Balanced.empty : Balanced (Book.empty : Book Token Place) where
  unissued _ _ _ := rfl
  finite _ := by simp [HasFiniteSupport, Book.empty]
  total _ _ issued := absurd issued (by simp [Book.empty])

section Apply

variable {book : Book Token Place}

theorem Balanced.issue (balanced : Balanced book) (token : Token) (holder : Place) (supply : ℕ)
    (fresh : book.supply token = none) : Balanced (book.issue token holder supply) := by
  constructor
  · intro other place unissued
    rw [Book.issue_supply] at unissued
    rw [Book.issue_held]
    by_cases same : other = token
    · subst same
      simp at unissued
    · rw [update_of_ne same] at unissued ⊢
      exact balanced.unissued other place unissued
  · intro other
    rw [Book.issue_held]
    by_cases same : other = token
    · subst same
      rw [update_self]
      exact Set.Finite.subset (Set.finite_singleton holder) Pi.support_single_subset
    · rw [update_of_ne same]
      exact balanced.finite other
  · intro other total issued
    rw [Book.issue_supply] at issued
    rw [Book.issue_held]
    by_cases same : other = token
    · subst same
      simp only [update_self, Option.some.injEq] at issued ⊢
      rw [finsum_eq_single _ holder (fun place apart => by simp [apart]), Pi.single_eq_same, issued]
    · rw [update_of_ne same] at issued ⊢
      exact balanced.total other total issued

theorem Balanced.transfer (balanced : Balanced book) (token : Token) {source target : Place}
    (distinct : source ≠ target) {value : ℕ} (enough : value ≤ book.held token source) :
    Balanced (book.transfer token source target value) := by
  constructor
  · -- an unissued token is held nowhere, so only an empty move can touch it
    intro other place unissued
    rw [Book.transfer_supply] at unissued
    rw [Book.transfer_held]
    by_cases same : other = token
    · subst same
      have nothing := balanced.unissued other
      have empty_source := nothing source unissued
      simp only [update_self, update_apply, nothing place unissued, empty_source,
        nothing target unissued]
      split_ifs <;> omega
    · rw [update_of_ne same]
      exact balanced.unissued other place unissued
  · intro other
    rw [Book.transfer_held]
    by_cases same : other = token
    · subst same
      rw [update_self]
      exact HasFiniteSupport.update (HasFiniteSupport.update (balanced.finite other) _ _) _ _
    · rw [update_of_ne same]
      exact balanced.finite other
  · intro other total issued
    rw [Book.transfer_supply] at issued
    rw [Book.transfer_held]
    by_cases same : other = token
    · subst same
      rw [update_self, finsum_move (balanced.finite other) distinct enough]
      exact balanced.total other total issued
    · rw [update_of_ne same]
      exact balanced.total other total issued

theorem Balanced.apply (balanced : Balanced book) : ∀ move : Move Token Place, Balanced (move.apply book)
  | .issue token holder supply => by
    simp only [Move.apply]
    split_ifs with fresh
    · exact balanced.issue token holder supply fresh
    · exact balanced
  | .move token source target value => by
    simp only [Move.apply]
    split_ifs with guard
    · exact balanced.transfer token guard.1 guard.2
    · exact balanced

theorem Balanced.reachable {allowed : Move Token Place → Prop} {start : Book Token Place}
    (balanced : Balanced start) (reached : Trace.Reachable Move.apply allowed start book) :
    Balanced book :=
  Trace.Reachable.invariant (fun move _ _ balanced => balanced.apply move) balanced reached

omit [DecidableEq Token] [DecidableEq Place] in
theorem Balanced.held_le (balanced : Balanced book) {token : Token} {supply : ℕ}
    (issued : book.supply token = some supply) (place : Place) : book.held token place ≤ supply := by
  rw [← balanced.total token supply issued]
  exact single_le_finsum place (balanced.finite token) (fun _ => Nat.zero_le _)

end Apply

end Muta.Ledger

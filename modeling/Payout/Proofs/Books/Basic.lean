import Payout.Lifecycle.Allocate
import Payout.Lifecycle.Amend
import Payout.Lifecycle.Create
import Payout.Lifecycle.Memory

/-!
# Lifecycle work on the books

On the books in memory no read or write of the store fails, so a piece of lifecycle work
either breaks a rule or succeeds. This file runs such work symbolically: a read or write of
the store is a function of the books, a rule that holds is skipped and a rule that fails
ends the work with the books as they stand.

A transaction keeps the writes of work that succeeds and drops those of work that fails;
`Books.commit` is the books after it. The writes themselves are described through the two
views every later statement reads: the distribution of an identifier and the rows of a
distribution.
-/

namespace Payout.Lifecycle

open DistributionStore

/-- Lifecycle work on the books in memory. -/
abbrev Work (α : Type) := LifeM (StateM Books) α

/-! ### Running work -/

section Run

variable {α β : Type}

theorem run_store (f : Books → α × Books) (b : Books) :
  (store (onBooks f) : Work α).run.run b = (.ok (f b).1, (f b).2)
  := rfl

theorem run_store_bind (f : Books → α × Books) (k : α → Work β) (b : Books) :
  (store (onBooks f) >>= k : Work β).run.run b = (k (f b).1).run.run (f b).2
  := rfl

theorem run_rule_bind (r : Except DomainError α) (k : α → Work β) (b : Books) :
  (rule r >>= k : Work β).run.run b
    = match r with
      | .ok a => (k a).run.run b
      | .error e => (.error (.violation e), b)
  := by
  cases r <;> rfl

theorem run_rule (r : Except DomainError α) (b : Books) :
  (rule r : Work α).run.run b
    = match r with
      | .ok a => (.ok a, b)
      | .error e => (.error (.violation e), b)
  := by
  cases r <;> rfl

theorem run_pure (a : α) (b : Books) :
  (pure a : Work α).run.run b = (.ok a, b)
  := rfl

theorem run_pure_bind (a : α) (k : α → Work β) (b : Books) :
  (pure a >>= k : Work β).run.run b = (k a).run.run b
  := rfl

theorem run_throw (e : CoreError) (b : Books) :
  (throw e : Work α).run.run b = (.error e, b)
  := rfl

theorem run_throw_bind (e : CoreError) (k : α → Work β) (b : Books) :
  (throw e >>= k : Work β).run.run b = (.error e, b)
  := rfl

theorem run_bind (x : Work α) (k : α → Work β) (b : Books) :
  (x >>= k).run.run b
    = match x.run.run b with
      | (.ok a, b') => (k a).run.run b'
      | (.error e, b') => (.error e, b')
  := by
  simp only [ExceptT.run_bind, StateT.run_bind]
  rcases x.run.run b with ⟨_ | _, _⟩ <;> rfl

theorem run_ite (c : Prop) [Decidable c] (x y : Work α) (b : Books) :
  (if c then x else y).run.run b = if c then x.run.run b else y.run.run b
  := by
  split <;> rfl

end Run

/-! ### The store on the books

Each read and write of the store on the books, as the function of the books it runs. -/

section Store

variable (id : Int)

@[simp]
theorem getDistribution_books :
  (getDistribution id : ExceptT StoreError (StateM Books) _)
    = onBooks fun b => (b.distributions.find? (·.id == some id), b)
  := rfl

@[simp]
theorem listStandings_books :
  (listStandings : ExceptT StoreError (StateM Books) _)
    = onBooks fun b => (b.participants.map b.standingOf, b)
  := rfl

@[simp]
theorem getParticipant_books :
  (getParticipant id : ExceptT StoreError (StateM Books) _)
    = onBooks fun b => (b.participants.find? (·.id == some id), b)
  := rfl

@[simp]
theorem listDetails_books :
  (listDetails id : ExceptT StoreError (StateM Books) _) = onBooks fun b => (b.detailsOf id, b)
  := rfl

@[simp]
theorem getDetail_books :
  (getDetail id : ExceptT StoreError (StateM Books) _)
    = onBooks fun b => (b.details.find? (·.id == some id), b)
  := rfl

@[simp]
theorem insertDistribution_books (d : Distribution) :
  (insertDistribution d : ExceptT StoreError (StateM Books) _)
    = onBooks fun b => ({ d with id := some (b.lastId + 1) },
        { b with lastId := b.lastId + 1,
                 distributions := b.distributions ++ [{ d with id := some (b.lastId + 1) }] })
  := rfl

@[simp]
theorem insertDetail_books (r : Detail) :
  (insertDetail r : ExceptT StoreError (StateM Books) _) = onBooks (Books.storeDetail r)
  := rfl

@[simp]
theorem replaceDetails_books (rows : List Detail) :
  (replaceDetails id rows : ExceptT StoreError (StateM Books) _)
    = onBooks fun b => Books.storeDetails rows { b with details := b.details.filter (·.distribution != id) }
  := rfl

@[simp]
theorem deleteDetail_books :
  (deleteDetail id : ExceptT StoreError (StateM Books) _)
    = onBooks fun b => ((), { b with details := b.details.filter (·.id != some id) })
  := rfl

@[simp]
theorem updateState_books (s : State) :
  (updateState id s : ExceptT StoreError (StateM Books) _)
    = onBooks fun b => ((), b.modifyDistribution id fun d => { d with state := s })
  := rfl

@[simp]
theorem updateTotalProfit_books (total : Int) :
  (DistributionStore.updateTotalProfit id total : ExceptT StoreError (StateM Books) _)
    = onBooks fun b => ((), b.modifyDistribution id fun d => { d with totalProfit := total })
  := rfl

@[simp]
theorem updateAmounts_books (amounts : List (Int × Int)) :
  (updateAmounts amounts : ExceptT StoreError (StateM Books) _)
    = onBooks fun b => ((), amounts.foldl Books.setAmount b)
  := rfl

end Store

namespace Books

/-- The books after a piece of work runs in a transaction: what it wrote when it succeeds,
the books as they were when it fails. -/
def commit {α : Type} (w : Work α) (b : Books) : Books :=
  match w.run.run b with
  | (.ok _, b') => b'
  | (.error _, _) => b

/-- The distribution of an identifier. -/
def distributionOf (b : Books) (id : Int) : Option Distribution :=
  b.distributions.find? (·.id == some id)

/-! ### What the writes do to the views -/

variable (b : Books)

theorem storeDetail_eq (r : Detail) :
  b.storeDetail r
    = ({ r with id := some (b.lastId + 1) },
       { b with lastId := b.lastId + 1, details := b.details ++ [{ r with id := some (b.lastId + 1) }] })
  := rfl

theorem detailsOf_append (rows rows' : List Detail) (id : Int) :
  ({ b with details := rows ++ rows' } : Books).detailsOf id
    = ({ b with details := rows } : Books).detailsOf id ++ ({ b with details := rows' } : Books).detailsOf id
  := List.filter_append ..

/-- Rows numbered from an identifier on, in order. -/
def numberFrom (start : Int) : List Detail → List Detail
  | [] => []
  | r :: rows => { r with id := some start } :: numberFrom (start + 1) rows

/-- Stored rows get the identifiers after the last one given, in order, and keep everything
else. -/
theorem storeDetails_eq (rows : List Detail) :
  b.storeDetails rows
    = (numberFrom (b.lastId + 1) rows,
       { b with lastId := b.lastId + rows.length,
                details := b.details ++ numberFrom (b.lastId + 1) rows })
  := by
  induction rows generalizing b with
  | nil => simp [storeDetails, numberFrom]
  | cons r rows ih =>
    rw [storeDetails, storeDetail_eq]
    dsimp only
    rw [ih]
    simp only [numberFrom, List.length_cons, List.append_assoc, List.singleton_append,
      Prod.mk.injEq, Books.mk.injEq, true_and]
    omega

theorem details_modifyDistribution (id : Int) (f : Distribution → Distribution) :
  (b.modifyDistribution id f).details = b.details
  := rfl

theorem detailsOf_modifyDistribution (id j : Int) (f : Distribution → Distribution) :
  (b.modifyDistribution id f).detailsOf j = b.detailsOf j
  := rfl

/-- Changing the distribution of an identifier, keeping identifiers, changes what that
identifier names and nothing else. -/
theorem distributionOf_modifyDistribution (id j : Int) (f : Distribution → Distribution)
    (hf : ∀ d, (f d).id = d.id) :
  (b.modifyDistribution id f).distributionOf j
    = (b.distributionOf j).map fun d => if j = id then f d else d
  := by
  simp only [distributionOf, modifyDistribution, List.find?_map]
  have hp : ((fun x => x.id == some j) ∘ fun d => if d.id == some id then f d else d)
      = fun x => x.id == some j := by
    funext d
    simp only [Function.comp_apply]
    split <;> simp [hf]
  rw [hp]
  cases h : b.distributions.find? (·.id == some j) with
  | none => rfl
  | some d =>
    have hd : d.id = some j := by simpa using List.find?_some h
    simp [hd]

end Books

end Payout.Lifecycle

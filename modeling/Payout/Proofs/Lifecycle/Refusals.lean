import Mathlib
import Payout.Proofs.Books.Run

/-!
# A refused call writes nothing

Every lifecycle operation makes all its checks before its first write, so a call that breaks
a rule has written nothing, with no transaction needed to undo anything. This is a fact about
the operations over every store whose reads leave it as it is (`ReadsKeep`), shown by a small
calculus over their do-blocks:

* `Keeps`: work that leaves the state as it is (reads, rules, pure values, and their binds);
* `Unrefused`: work that never breaks a rule (writes, pure values, and their binds);
* `Quiet`: work that leaves the state as it is whenever it breaks a rule. Work that keeps the
  state followed by quiet work is quiet, and quiet work followed only by work that is never
  refused is quiet.

Each operation is quiet (`quiet_work`). On a store that journals every call of a write method
(`Journaled`), a refused call therefore leaves both the journal and the books as they were.
-/

namespace Payout.Lifecycle

open DistributionStore

section Calculus

variable {σ α β : Type}

/-- Work leaves the state as it is. -/
def Keeps (w : LifeM (StateM σ) α) : Prop :=
  ∀ s, (w.run.run s).2 = s

/-- Work leaves the state as it is whenever it breaks a rule. -/
def Quiet (w : LifeM (StateM σ) α) : Prop :=
  ∀ s e, (w.run.run s).1 = .error (.violation e) → (w.run.run s).2 = s

/-- Work never breaks a rule; it may still fail in the store. -/
def Unrefused (w : LifeM (StateM σ) α) : Prop :=
  ∀ s e, (w.run.run s).1 ≠ .error (.violation e)

theorem run_store_state (act : ExceptT StoreError (StateM σ) α) (s : σ) :
  (store act).run.run s
    = match act.run.run s with
      | (.ok a, s') => (.ok a, s')
      | (.error e, s') => (.error (.store e), s')
  := by
  simp only [store, ExceptT.adapt, ExceptT.run_mk, StateT.run_map]
  dsimp only [ExceptT.run]
  rcases StateT.run act s with ⟨_ | _, _⟩ <;> rfl

theorem run_bind_state (w : LifeM (StateM σ) α) (k : α → LifeM (StateM σ) β) (s : σ) :
  (w >>= k).run.run s
    = match w.run.run s with
      | (.ok a, s') => (k a).run.run s'
      | (.error e, s') => (.error e, s')
  := by
  simp only [ExceptT.run_bind, StateT.run_bind]
  rcases w.run.run s with ⟨_ | _, _⟩ <;> rfl

theorem Keeps.quiet {w : LifeM (StateM σ) α} (h : Keeps w) :
  Quiet w
  := fun s _ _ => h s

theorem Unrefused.quiet {w : LifeM (StateM σ) α} (h : Unrefused w) :
  Quiet w
  := fun s e he => absurd he (h s e)

theorem Keeps.pure (a : α) :
  Keeps (pure a : LifeM (StateM σ) α)
  := fun _ => rfl

theorem Keeps.throw (e : CoreError) :
  Keeps (throw e : LifeM (StateM σ) α)
  := fun _ => rfl

theorem Keeps.throw_bind (e : CoreError) (k : α → LifeM (StateM σ) β) :
  Keeps (MonadExcept.throw e >>= k : LifeM (StateM σ) β)
  := fun _ => rfl

theorem Keeps.rule (r : Except DomainError α) :
  Keeps (rule r : LifeM (StateM σ) α)
  := by
  intro s
  cases r <;> rfl

/-- A read that leaves the state as it is, as an operation sees it. -/
theorem Keeps.store {act : ExceptT StoreError (StateM σ) α} (h : ∀ s, (act.run.run s).2 = s) :
  Keeps (store act)
  := by
  intro s
  have hs := h s
  rw [run_store_state]
  rcases hact : act.run.run s with ⟨_ | a, s'⟩ <;> rw [hact] at hs <;> exact hs

theorem Keeps.bind {w : LifeM (StateM σ) α} {k : α → LifeM (StateM σ) β} (hw : Keeps w)
    (hk : ∀ a, Keeps (k a)) :
  Keeps (w >>= k)
  := by
  intro s
  have hs := hw s
  rw [run_bind_state]
  rcases hws : w.run.run s with ⟨_ | a, s'⟩
  · rw [hws] at hs
    exact hs
  · rw [hws] at hs
    dsimp only at hs ⊢
    rw [hk a s', hs]

theorem Keeps.mapM {γ : Type} {f : γ → LifeM (StateM σ) α} (hf : ∀ x, Keeps (f x)) (xs : List γ) :
  Keeps (xs.mapM f)
  := by
  induction xs with
  | nil => exact Keeps.pure _
  | cons x xs ih =>
    rw [List.mapM_cons]
    exact (hf x).bind fun _ => ih.bind fun _ => Keeps.pure _

theorem Unrefused.pure (a : α) :
  Unrefused (pure a : LifeM (StateM σ) α)
  := by
  intro s e h
  cases h

/-- A step of the store fails, if at all, in the store, never by a rule. -/
theorem Unrefused.store (act : ExceptT StoreError (StateM σ) α) :
  Unrefused (store act)
  := by
  intro s e h
  rw [run_store_state] at h
  rcases hact : act.run.run s with ⟨_ | a, s'⟩ <;> rw [hact] at h <;> cases h

theorem Unrefused.bind {w : LifeM (StateM σ) α} {k : α → LifeM (StateM σ) β} (hw : Unrefused w)
    (hk : ∀ a, Unrefused (k a)) :
  Unrefused (w >>= k)
  := by
  intro s e h
  rw [run_bind_state] at h
  rcases hws : w.run.run s with ⟨_ | a, s'⟩
  · rw [hws] at h
    obtain rfl : _ = CoreError.violation e := Except.error.inj h
    exact hw s e (by rw [hws])
  · rw [hws] at h
    exact hk a s' e h

/-- Checks, then quiet work: refused in the checks, nothing has changed yet; refused later,
the checks changed nothing. -/
theorem Quiet.bind_keeps {w : LifeM (StateM σ) α} {k : α → LifeM (StateM σ) β} (hw : Keeps w)
    (hk : ∀ a, Quiet (k a)) :
  Quiet (w >>= k)
  := by
  intro s e he
  have hs := hw s
  rw [run_bind_state] at he ⊢
  rcases hws : w.run.run s with ⟨_ | a, s'⟩
  · rw [hws] at hs
    exact hs
  · rw [hws] at hs he
    dsimp only at hs he ⊢
    subst hs
    exact hk a s' e he

/-- Quiet work, then work that is never refused: a refusal can only come from the first. -/
theorem Quiet.bind_unrefused {w : LifeM (StateM σ) α} {k : α → LifeM (StateM σ) β} (hw : Quiet w)
    (hk : ∀ a, Unrefused (k a)) :
  Quiet (w >>= k)
  := by
  intro s e he
  rw [run_bind_state] at he ⊢
  rcases hws : w.run.run s with ⟨_ | a, s'⟩
  · rw [hws] at he
    obtain rfl : _ = CoreError.violation e := Except.error.inj he
    have hv := hw s _ (by rw [hws])
    rw [hws] at hv
    exact hv
  · rw [hws] at he
    exact absurd he (hk a s' e)

end Calculus

/-! ### The operations are quiet -/

section Operations

variable {σ : Type} [DistributionStore (StateM σ)]

/-- The reads of a store leave its state as it is. -/
structure ReadsKeep (σ : Type) [DistributionStore (StateM σ)] : Prop where
  getDistribution : ∀ id s, ((getDistribution id : ExceptT StoreError (StateM σ) _).run.run s).2 = s
  listStandings : ∀ s, ((listStandings : ExceptT StoreError (StateM σ) _).run.run s).2 = s
  getParticipant : ∀ id s, ((getParticipant id : ExceptT StoreError (StateM σ) _).run.run s).2 = s
  listDetails : ∀ id s, ((listDetails id : ExceptT StoreError (StateM σ) _).run.run s).2 = s
  getDetail : ∀ id s, ((getDetail id : ExceptT StoreError (StateM σ) _).run.run s).2 = s

theorem quiet_createDistribution (period : String) (date : Calendar.Date) (totalProfit : Int)
    (actor : Actor) (cause : Cause) :
  Quiet (createDistribution period date totalProfit actor cause : LifeM (StateM σ) _)
  := by
  unfold createDistribution
  apply Quiet.bind_keeps (Keeps.rule _) fun _ => Quiet.bind_keeps (Keeps.rule _) fun _ => ?_
  exact (Unrefused.store _).quiet.bind_unrefused fun _ => Unrefused.pure _

variable (hr : ReadsKeep σ)
include hr

theorem keeps_summaryOf (id : Int) :
  Keeps (summaryOf id : LifeM (StateM σ) Summary)
  := by
  unfold summaryOf loadDistribution
  apply Keeps.bind (Keeps.bind (Keeps.store (hr.getDistribution id)) fun found => ?_)
  · intro d
    exact (Keeps.store (hr.listDetails id)).bind fun _ => Keeps.pure _
  · cases found with
    | some d => exact Keeps.pure d
    | none => exact Keeps.throw _

/-- A row by hand is inserted only after the last check, and what follows only writes, so a refusal
writes nothing. -/
theorem quiet_addManualDetail (distribution participant : Int) (percentage : Float) (actor : Actor)
    (cause : Cause) :
  Quiet (addManualDetail distribution participant percentage actor cause : LifeM (StateM σ) _)
  := by
  unfold addManualDetail
  apply Quiet.bind_keeps (Keeps.rule _) fun _ => Quiet.bind_keeps (keeps_summaryOf hr _) fun summary =>
    Quiet.bind_keeps (Keeps.store (hr.getParticipant _)) fun found => ?_
  dsimp only
  split
  · exact (Keeps.throw_bind _ _).quiet
  · apply Quiet.bind_keeps (Keeps.rule _) fun _ => Quiet.bind_keeps (Keeps.rule _) fun _ =>
      Quiet.bind_keeps (Keeps.rule _) fun amount => ?_
    apply (Unrefused.store _).quiet.bind_unrefused fun inserted => ?_
    split
    · exact (Unrefused.store _).bind fun _ => Unrefused.pure _
    · exact Unrefused.pure _

/-- An automatic allocation runs the whole pipeline before it replaces the rows, so a refusal writes
nothing. -/
theorem quiet_runAutomaticAllocation (distribution : Int) (actor : Actor) (cause : Cause) :
  Quiet (runAutomaticAllocation distribution actor cause : LifeM (StateM σ) _)
  := by
  unfold runAutomaticAllocation
  apply Quiet.bind_keeps (keeps_summaryOf hr _) fun summary => ?_
  dsimp only
  split
  · exact (Keeps.throw_bind _ _).quiet
  · apply Quiet.bind_keeps (Keeps.store hr.listStandings) fun standings =>
      Quiet.bind_keeps (Keeps.rule _) fun allocations => ?_
    exact (Unrefused.store _).quiet.bind_unrefused fun _ =>
      (Unrefused.store _).bind fun _ => Unrefused.pure _

theorem quiet_removeDetail (id : Int) (actor : Actor) (cause : Cause) :
  Quiet (removeDetail id actor cause : LifeM (StateM σ) _)
  := by
  unfold removeDetail
  apply Quiet.bind_keeps (Keeps.store (hr.getDetail id)) fun found => ?_
  cases found with
  | none => exact (Keeps.throw _).quiet
  | some detail =>
    apply Quiet.bind_keeps (keeps_summaryOf hr _) fun summary => ?_
    dsimp only
    apply (Unrefused.store _).quiet.bind_unrefused fun _ => ?_
    split
    · exact (Unrefused.store _).bind fun _ => (Unrefused.pure _).bind fun _ => Unrefused.pure _
    · exact (Unrefused.pure _).bind fun _ => Unrefused.pure _

/-- A change of total profit recomputes every amount, any of which may be refused, before the total
is written, so a refusal writes nothing. -/
theorem quiet_updateTotalProfit (distribution total : Int) (actor : Actor) (cause : Cause) :
  Quiet (updateTotalProfit distribution total actor cause : LifeM (StateM σ) _)
  := by
  unfold updateTotalProfit
  apply Quiet.bind_keeps (Keeps.rule _) fun _ => Quiet.bind_keeps (keeps_summaryOf hr _) fun summary =>
    Quiet.bind_keeps (Keeps.mapM (fun _ => (Keeps.rule _).bind fun _ => Keeps.pure _) _) fun recomputed => ?_
  exact (Unrefused.store _).quiet.bind_unrefused fun _ =>
    (Unrefused.store _).bind fun _ => Unrefused.pure _

/-- Every call of a lifecycle operation is quiet on a store whose reads keep it. -/
theorem quiet_work (req : Request) (actor : Actor) (cause : Cause) :
  Quiet (req.work actor cause : LifeM (StateM σ) Unit)
  := by
  cases req with
  | create period date totalProfit =>
    exact (quiet_createDistribution period date totalProfit actor cause).bind_unrefused
      fun _ => Unrefused.pure _
  | addManual distribution participant percentage =>
    exact (quiet_addManualDetail hr distribution participant percentage actor cause).bind_unrefused
      fun _ => Unrefused.pure _
  | allocate distribution =>
    exact (quiet_runAutomaticAllocation hr distribution actor cause).bind_unrefused
      fun _ => Unrefused.pure _
  | remove id =>
    exact (quiet_removeDetail hr id actor cause).bind_unrefused fun _ => Unrefused.pure _
  | retotal distribution total =>
    exact (quiet_updateTotalProfit hr distribution total actor cause).bind_unrefused
      fun _ => Unrefused.pure _

end Operations

/-! ### A store that journals its writes -/

/-- A call of a write method of the store, with its arguments. -/
inductive Write where
  | insertDistribution (d : Distribution)
  | insertDetail (r : Detail)
  | replaceDetails (distribution : Int) (rows : List Detail)
  | deleteDetail (id : Int)
  | updateState (distribution : Int) (state : State)
  | updateTotalProfit (distribution total : Int)
  | updateAmounts (amounts : List (Int × Int))

/-- The books with the journal of every write method called on them, oldest first. -/
structure Journaled where
  books : Books
  journal : List Write

namespace Journaled

/-- A read of the books. -/
def read {α : Type} (act : ExceptT StoreError (StateM Books) α) : ExceptT StoreError (StateM Journaled) α :=
  ExceptT.mk fun j => ((act.run.run j.books).1, { j with books := (act.run.run j.books).2 })

/-- A write of the books, journaled as the call made. -/
def write {α : Type} (w : Write) (act : ExceptT StoreError (StateM Books) α) :
    ExceptT StoreError (StateM Journaled) α :=
  ExceptT.mk fun j => ((act.run.run j.books).1, ⟨(act.run.run j.books).2, j.journal ++ [w]⟩)

end Journaled

instance : DistributionStore (StateM Journaled) where
  getDistribution id := Journaled.read (getDistribution id)
  listStandings := Journaled.read listStandings
  getParticipant id := Journaled.read (getParticipant id)
  listDetails id := Journaled.read (listDetails id)
  getDetail id := Journaled.read (getDetail id)
  insertDistribution d := Journaled.write (.insertDistribution d) (insertDistribution d)
  insertDetail r := Journaled.write (.insertDetail r) (insertDetail r)
  replaceDetails id rows := Journaled.write (.replaceDetails id rows) (replaceDetails id rows)
  deleteDetail id := Journaled.write (.deleteDetail id) (deleteDetail id)
  updateState id s := Journaled.write (.updateState id s) (updateState id s)
  updateTotalProfit id total := Journaled.write (.updateTotalProfit id total)
    (DistributionStore.updateTotalProfit id total)
  updateAmounts amounts := Journaled.write (.updateAmounts amounts) (updateAmounts amounts)

theorem readsKeep_journaled :
  ReadsKeep Journaled
  := ⟨fun _ _ => rfl, fun _ => rfl, fun _ _ => rfl, fun _ _ => rfl, fun _ _ => rfl⟩

/-- A call that breaks a rule calls no write method of the store and leaves every
distribution, row, state and total as it was, with no transaction around it. -/
theorem refusal_writes_nothing (j : Journaled) (req : Request) (actor : Actor) (cause : Cause)
    {e : DomainError}
    (h : ((req.work actor cause : LifeM (StateM Journaled) Unit).run.run j).1 = .error (.violation e)) :
  ((req.work actor cause : LifeM (StateM Journaled) Unit).run.run j).2.journal = j.journal
    ∧ ((req.work actor cause : LifeM (StateM Journaled) Unit).run.run j).2.books = j.books
  := by
  have hj := quiet_work readsKeep_journaled req actor cause j e h
  rw [hj]
  exact ⟨rfl, rfl⟩

set_option maxRecDepth 20000 in
/-- Giving a participant of the sample run a second row by hand is refused after the
distribution, its rows and the participant have been read. -/
theorem refusal_writes_nothing_duplicate :
  (((Request.addManual 1 2 70.0).work ⟨"admin", "user"⟩ ⟨"r3", "again"⟩ : LifeM (StateM Journaled) Unit).run.run
      ⟨Books.sampleRun, []⟩).1 = .error (.violation (.duplicateParticipant 1 2))
    ∧ (((Request.addManual 1 2 70.0).work ⟨"admin", "user"⟩ ⟨"r3", "again"⟩ : LifeM (StateM Journaled) Unit).run.run
        ⟨Books.sampleRun, []⟩).2.journal = []
    ∧ (((Request.addManual 1 2 70.0).work ⟨"admin", "user"⟩ ⟨"r3", "again"⟩ : LifeM (StateM Journaled) Unit).run.run
        ⟨Books.sampleRun, []⟩).2.books = Books.sampleRun
  := by
  have h : (((Request.addManual 1 2 70.0).work ⟨"admin", "user"⟩ ⟨"r3", "again"⟩ :
      LifeM (StateM Journaled) Unit).run.run ⟨Books.sampleRun, []⟩).1
        = .error (.violation (.duplicateParticipant 1 2)) := by
    rfl
  exact ⟨h, refusal_writes_nothing _ _ _ _ h⟩

end Payout.Lifecycle

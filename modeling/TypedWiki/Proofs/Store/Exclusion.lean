import Mathlib.Data.List.Basic
import TypedWiki.Proofs.Run
import TypedWiki.Store.Locks

/-!
# Lock exclusion — who holds a lock is told by the calls

An owner holds a lock from a call that took it until its own next call to give it back.  This speaks of the calls
only.  The table has one entry for a lock, whoever asked for it: owners renew their entries, ask in vain for those of
others and try to give back what they do not have.

* `LockCall`, `LockCall.perform`: the calls of all owners on one table.
* `HeldBy`: what the calls so far say of an owner and a lock.
* `LockCall.InTime`: a lock that is asked for has not run out, and its new expiry is on the clock.
* `Tracks`: the table has entries for exactly the locks that are held, each under its holder.
* `exclusive_of_run`: after any calls a lock has at most one holder, and the next call is answered accordingly.
-/

namespace TypedWiki

/-- A call of an owner on a lock; an attempt to take it reads the clock. -/
inductive LockCall where
  | tryLock (owner : String) (key : DocumentRef × String) (now : Nat)
  | unlock (owner : String) (key : DocumentRef × String)

/-- A call with its answer. -/
abbrev LockEvent := LockCall × Except StoreError Bool

/-- An owner holds a lock: it took the lock and has not tried to give it back since. -/
def HeldBy (owner : String) (key : DocumentRef × String) (es : List LockEvent) : Prop :=
  ∃ before now after, es = before ++ (.tryLock owner key now, .ok true) :: after ∧
    ∀ e ∈ after, e.1 ≠ .unlock owner key

namespace LockCall

def owner : LockCall → String
  | tryLock owner _ _ => owner
  | unlock owner _ => owner

def key : LockCall → DocumentRef × String
  | tryLock _ key _ => key
  | unlock _ key => key

def perform (ttl : Nat) (t : LockTable) : LockCall → Except StoreError Bool × LockTable
  | tryLock owner key now => t.tryLock now ttl owner key.1 key.2
  | unlock owner key => t.unlock owner key.1 key.2

/-- A lock that is asked for has not run out, and its new expiry is on the clock. -/
def InTime (ttl : Nat) (t : LockTable) : LockCall → Prop
  | tryLock _ key now => now + ttl < LockTable.clockLimit ∧ ∀ l ∈ t.locks.get? key, now < l.expires
  | unlock _ _ => True

/-- Whether a call is to succeed: a lock is free for those who find no other holder, and only its holder gives it
back. -/
def Entitled (es : List LockEvent) : LockCall → Prop
  | tryLock owner key _ => ∀ other, HeldBy other key es → other = owner
  | unlock owner key => HeldBy owner key es

/-- What a call does after some others: its answer, and who holds what from then on. -/
structure Settles (ttl : Nat) (es : List LockEvent) (call : LockCall) (success : Bool) (t : LockTable) : Prop where
  success_iff : success = true ↔ call.Entitled es
  /-- A lock that is taken or renewed has its whole time before it. -/
  renewed : ∀ owner key now, call = .tryLock owner key now → success = true →
    t.locks.get? key = some ⟨owner, now + ttl⟩
  /-- The caller holds the lock afterwards exactly if the call took it. -/
  caller : HeldBy call.owner call.key (es ++ [(call, .ok success)]) ↔
    success = true ∧ ∃ now, call = .tryLock call.owner call.key now
  /-- For all other owners and all other locks nothing changes. -/
  others : ∀ owner key, owner ≠ call.owner ∨ key ≠ call.key →
    (HeldBy owner key (es ++ [(call, .ok success)]) ↔ HeldBy owner key es)

end LockCall

/-- A call in time, with the answer that it gets. -/
def Answers (ttl : Nat) (t : LockTable) (e : LockEvent) (t' : LockTable) : Prop :=
  e.1.InTime ttl t ∧ e.1.perform ttl t = (e.2, t')

/-! ### Holding and the last call -/

section

variable {owner caller : String} {key called : DocumentRef × String} {es : List LockEvent} {now : Nat}

theorem heldBy_concat_iff {e : LockEvent} :
    HeldBy owner key (es ++ [e]) ↔
      (∃ now, e = (.tryLock owner key now, .ok true)) ∨ HeldBy owner key es ∧ e.1 ≠ .unlock owner key := by
  constructor
  · rintro ⟨before, now, after, hsplit, kept⟩
    rcases List.eq_nil_or_concat' after with rfl | ⟨rest, last, rfl⟩
    · obtain ⟨-, hlast⟩ := List.append_inj' hsplit rfl
      exact Or.inl ⟨now, List.singleton_inj.1 hlast⟩
    · rw [← List.cons_append, ← List.append_assoc] at hsplit
      obtain ⟨hinit, hlast⟩ := List.append_inj' hsplit rfl
      obtain rfl : e = last := List.singleton_inj.1 hlast
      have before_last : HeldBy owner key es :=
        ⟨before, now, rest, hinit, fun f hf => kept f (List.mem_append_left _ hf)⟩
      exact Or.inr ⟨before_last, kept e (List.mem_append_right _ List.mem_cons_self)⟩
  · rintro (⟨now, rfl⟩ | ⟨⟨before, now, after, rfl, kept⟩, hne⟩)
    · exact ⟨es, now, [], rfl, fun f hf => nomatch hf⟩
    · refine ⟨before, now, after ++ [e], by simp, fun f hf => ?_⟩
      rcases List.mem_append.1 hf with hf | hf
      · exact kept f hf
      · rw [List.mem_singleton.1 hf]
        exact hne

/-- An attempt gives the caller the lock if it succeeds, and takes nothing from anyone. -/
theorem heldBy_tryLock_iff {answer : Except StoreError Bool} :
    HeldBy owner key (es ++ [(.tryLock caller called now, answer)]) ↔
      (answer = .ok true ∧ owner = caller ∧ key = called) ∨ HeldBy owner key es := by
  rw [heldBy_concat_iff]
  simp only [Prod.mk.injEq, LockCall.tryLock.injEq, ne_eq, reduceCtorEq, not_false_eq_true, and_true]
  constructor
  · rintro (⟨now', ⟨rfl, rfl, -⟩, rfl⟩ | held)
    · exact Or.inl ⟨rfl, rfl, rfl⟩
    · exact Or.inr held
  · rintro (⟨rfl, rfl, rfl⟩ | held)
    · exact Or.inl ⟨now, ⟨rfl, rfl, rfl⟩, rfl⟩
    · exact Or.inr held

theorem heldBy_refused_iff :
    HeldBy owner key (es ++ [(.tryLock caller called now, .ok false)]) ↔ HeldBy owner key es :=
  heldBy_tryLock_iff.trans (or_iff_right fun taken => nomatch taken.1)

/-- Giving back ends the holding of the caller and of nobody else, whatever the answer. -/
theorem heldBy_unlock_iff {answer : Except StoreError Bool} :
    HeldBy owner key (es ++ [(.unlock caller called, answer)]) ↔
      HeldBy owner key es ∧ ¬ (owner = caller ∧ key = called) := by
  rw [heldBy_concat_iff]
  simp only [Prod.mk.injEq, reduceCtorEq, false_and, exists_false, false_or, ne_eq, LockCall.unlock.injEq]
  rw [eq_comm (a := caller), eq_comm (a := called)]

theorem not_heldBy_nil : ¬ HeldBy owner key [] := by
  rintro ⟨before, now, after, hsplit, -⟩
  simp at hsplit

end

/-! ### The table -/

/-- What the table has to do with the calls so far. -/
structure Tracks (es : List LockEvent) (t : LockTable) : Prop where
  usable : t.poisoned = false
  heldBy_iff : ∀ owner key, HeldBy owner key es ↔ ∃ l, t.locks.get? key = some l ∧ l.owner = owner

section

variable {es : List LockEvent} {t : LockTable} {ttl : Nat}

theorem Tracks.init : Tracks [] {} where
  usable := rfl
  heldBy_iff owner key := by
    refine ⟨fun held => absurd held not_heldBy_nil, ?_⟩
    rintro ⟨l, hl, -⟩
    cases hl

/-- One entry has one owner. -/
theorem Tracks.unique (h : Tracks es t) {key : DocumentRef × String} {a b : String} (ha : HeldBy a key es)
    (hb : HeldBy b key es) : a = b := by
  obtain ⟨l, hl, rfl⟩ := (h.heldBy_iff a key).1 ha
  obtain ⟨l', hl', rfl⟩ := (h.heldBy_iff b key).1 hb
  rw [hl, Option.some.injEq] at hl'
  rw [hl']

theorem Tracks.heldByOther_iff (h : Tracks es t) {owner : String} {key : DocumentRef × String} {now : Nat}
    (inForce : ∀ l ∈ t.locks.get? key, now < l.expires) :
    t.heldByOther now owner key = true ↔ ∃ other, other ≠ owner ∧ HeldBy other key es := by
  rw [LockTable.heldByOther, Option.any_eq_true]
  constructor
  · rintro ⟨l, hl, hother⟩
    simp only [Bool.and_eq_true, decide_eq_true_eq] at hother
    exact ⟨l.owner, hother.1, (h.heldBy_iff l.owner key).2 ⟨l, hl, rfl⟩⟩
  · rintro ⟨other, hne, held⟩
    obtain ⟨l, hl, rfl⟩ := (h.heldBy_iff other key).1 held
    refine ⟨l, hl, ?_⟩
    have := inForce l hl
    simp [hne, this]

/-! ### Single calls -/

variable {owner : String} {key : DocumentRef × String}

/-- An attempt that another holder stands in the way of changes nothing. -/
theorem Tracks.refuse (h : Tracks es t) {other : String} (hne : other ≠ owner) (held : HeldBy other key es)
    (now : Nat) :
    Tracks (es ++ [(.tryLock owner key now, .ok false)]) t ∧
      (LockCall.tryLock owner key now).Settles ttl es false t := by
  constructor
  · refine ⟨h.usable, fun o k => ?_⟩
    rw [heldBy_refused_iff]
    exact h.heldBy_iff o k
  constructor
  case success_iff =>
    simp only [Bool.false_eq_true, LockCall.Entitled, false_iff, not_forall]
    exact ⟨other, held, hne⟩
  case renewed =>
    intro o k n _ hfalse
    cases hfalse
  case caller =>
    have lacking : ¬ HeldBy owner key es := fun own => hne (h.unique held own)
    rw [LockCall.owner, LockCall.key, heldBy_refused_iff]
    exact iff_of_false lacking fun hfalse => nomatch hfalse.1
  case others =>
    intro o k _
    exact heldBy_refused_iff

/-- An attempt on a lock that nobody else holds gives it to the caller, whether it is taken or renewed. -/
theorem Tracks.take (h : Tracks es t) (free : ∀ other, HeldBy other key es → other = owner) (now : Nat) :
    Tracks (es ++ [(.tryLock owner key now, .ok true)]) { t with locks := t.locks.insert key ⟨owner, now + ttl⟩ } ∧
      (LockCall.tryLock owner key now).Settles ttl es true
        { t with locks := t.locks.insert key ⟨owner, now + ttl⟩ } := by
  constructor
  · refine ⟨h.usable, fun o k => ?_⟩
    rw [heldBy_tryLock_iff, OrderedMap.get?_insert]
    by_cases hk : key = k
    · -- a former holder can only be the caller, whose entry is replaced
      subst hk
      simp only [true_and, and_true, if_true, Option.some.injEq, exists_eq_left']
      exact ⟨fun ho => ho.elim Eq.symm fun ho => (free o ho).symm, fun ho => Or.inl ho.symm⟩
    · rw [if_neg hk, ← h.heldBy_iff o k]
      simp [Ne.symm hk]
  constructor
  case success_iff => exact ⟨fun _ => free, fun _ => rfl⟩
  case renewed =>
    rintro o k n ⟨⟩ -
    exact (OrderedMap.get?_insert ..).trans (if_pos rfl)
  case caller =>
    rw [LockCall.owner, LockCall.key, heldBy_tryLock_iff]
    exact iff_of_true (Or.inl ⟨rfl, rfl, rfl⟩) ⟨rfl, now, rfl⟩
  case others =>
    intro o k hne
    rw [heldBy_tryLock_iff]
    refine or_iff_right ?_
    rintro ⟨-, rfl, rfl⟩
    exact hne.elim (fun ho => ho rfl) fun hk => hk rfl

/-- What holds of a return by anyone, whether there was anything to give back or not. -/
theorem settles_unlock {success : Bool} (entitled : success = true ↔ HeldBy owner key es) :
    (LockCall.unlock owner key).Settles ttl es success t where
  success_iff := entitled
  renewed o k n hcall := nomatch hcall
  caller := by
    rw [LockCall.owner, LockCall.key, heldBy_unlock_iff]
    simp
  others o k hne := by
    rw [heldBy_unlock_iff]
    refine and_iff_left ?_
    rintro ⟨rfl, rfl⟩
    exact hne.elim (fun ho => ho rfl) fun hk => hk rfl

theorem Tracks.release (h : Tracks es t) (held : HeldBy owner key es) :
    Tracks (es ++ [(.unlock owner key, .ok true)]) { t with locks := t.locks.erase key } := by
  refine ⟨h.usable, fun o k => ?_⟩
  rw [heldBy_unlock_iff, OrderedMap.get?_erase]
  by_cases hk : key = k
  · -- the entry is gone, and with it its only holder
    subst hk
    simp only [and_true, if_true, reduceCtorEq, false_and, exists_false, iff_false, not_and, not_not]
    exact fun ho => h.unique ho held
  · rw [if_neg hk, ← h.heldBy_iff o k]
    simp [Ne.symm hk]

theorem Tracks.keep (h : Tracks es t) (foreign : ¬ HeldBy owner key es) :
    Tracks (es ++ [(.unlock owner key, .ok false)]) t := by
  refine ⟨h.usable, fun o k => ?_⟩
  rw [heldBy_unlock_iff, ← h.heldBy_iff o k]
  refine and_iff_left_of_imp ?_
  rintro held ⟨rfl, rfl⟩
  exact foreign held

/-- An attempt is refused for another holder, or the lock is the caller's from then on. -/
theorem Tracks.tryLock (h : Tracks es t) {now : Nat} (inTime : (LockCall.tryLock owner key now).InTime ttl t) :
    ∃ success t', (LockCall.tryLock owner key now).perform ttl t = (.ok success, t') ∧
      Tracks (es ++ [(.tryLock owner key now, .ok success)]) t' ∧
      (LockCall.tryLock owner key now).Settles ttl es success t' := by
  obtain ⟨onClock, inForce⟩ := inTime
  by_cases held : t.heldByOther now owner key = true
  · obtain ⟨other, hne, hother⟩ := (h.heldByOther_iff inForce).1 held
    exact ⟨false, t, LockTable.tryLock_of_held h.usable held, h.refuse hne hother now⟩
  · have free : ∀ other, HeldBy other key es → other = owner := by
      intro other hother
      by_contra hne
      exact held ((h.heldByOther_iff inForce).2 ⟨other, hne, hother⟩)
    exact ⟨true, _, LockTable.tryLock_of_free h.usable (Bool.eq_false_iff.2 held) onClock, h.take free now⟩

/-- The holder gives the lock back; for anyone else nothing happens. -/
theorem Tracks.unlock (h : Tracks es t) (owner : String) (key : DocumentRef × String) :
    ∃ success t', (LockCall.unlock owner key).perform ttl t = (.ok success, t') ∧
      Tracks (es ++ [(.unlock owner key, .ok success)]) t' ∧
      (LockCall.unlock owner key).Settles ttl es success t' := by
  by_cases held : HeldBy owner key es
  · obtain ⟨l, hl, owned⟩ := (h.heldBy_iff owner key).1 held
    exact ⟨true, _, LockTable.unlock_of_owned h.usable hl owned, h.release held,
      settles_unlock (iff_of_true rfl held)⟩
  · have foreign : ∀ l, t.locks.get? key = some l → l.owner ≠ owner := by
      intro l hl howned
      exact held ((h.heldBy_iff owner key).2 ⟨l, hl, howned⟩)
    exact ⟨false, t, LockTable.unlock_of_not_owned h.usable foreign, h.keep held,
      settles_unlock (iff_of_false Bool.false_ne_true held)⟩

/-- Every call in time is answered, and the table keeps up with it. -/
theorem Tracks.perform (h : Tracks es t) {call : LockCall} (inTime : call.InTime ttl t) :
    ∃ success t', call.perform ttl t = (.ok success, t') ∧ Tracks (es ++ [(call, .ok success)]) t' ∧
      call.Settles ttl es success t' := by
  cases call with
  | tryLock owner key now => exact h.tryLock inTime
  | unlock owner key => exact h.unlock owner key

theorem tracks_of_run (run : Run (Answers ttl) {} es t) : Tracks es t := by
  induction run with
  | nil => exact Tracks.init
  | @snoc _ _ _ e _ step ih =>
    obtain ⟨call, answer⟩ := e
    obtain ⟨inTime, performed⟩ := step
    obtain ⟨success, t', performed', tracks, -⟩ := ih.perform inTime
    obtain ⟨rfl, rfl⟩ := Prod.mk.inj (performed.symm.trans performed')
    exact tracks

/-- **Locks exclude each other's owners**: after any calls, as long as no lock runs out, a lock has at most one holder;
the next call is answered, an attempt with success exactly if there is no other holder, a return exactly if the caller
is the holder; and no other owner and no other lock is affected. -/
theorem exclusive_of_run (run : Run (Answers ttl) {} es t) :
    (∀ key a b, HeldBy a key es → HeldBy b key es → a = b) ∧
      ∀ call : LockCall, call.InTime ttl t →
        ∃ success t', call.perform ttl t = (.ok success, t') ∧ call.Settles ttl es success t' := by
  have tracks := tracks_of_run run
  refine ⟨fun key a b ha hb => tracks.unique ha hb, fun call inTime => ?_⟩
  obtain ⟨success, t', performed, -, settles⟩ := tracks.perform inTime
  exact ⟨success, t', performed, settles⟩

end

/-- The lock under which an agenda is edited. -/
def agendaLock : DocumentRef × String := (⟨"w", "Team", "Agenda"⟩, "edit")

/-- The lock is renewed, asked for in vain and not given back by the wrong owner before it changes hands. -/
def handover : List LockEvent :=
  [(.tryLock "ann" agendaLock 0, .ok true), (.tryLock "ben" agendaLock 1, .ok false),
    (.tryLock "ann" agendaLock 9, .ok true), (.unlock "ben" agendaLock, .ok false),
    (.tryLock "ben" agendaLock 12, .ok false), (.unlock "ann" agendaLock, .ok true),
    (.tryLock "ben" agendaLock 13, .ok true)]

theorem exclusive_of_run_handover :
    ∃ t, Run (Answers 10) {} handover t ∧ HeldBy "ben" agendaLock handover ∧ ¬ HeldBy "ann" agendaLock handover ∧
      ∀ call : LockCall, call.InTime 10 t →
        ∃ success t', call.perform 10 t = (.ok success, t') ∧ call.Settles 10 handover success t' := by
  obtain ⟨t, run⟩ : ∃ t, Run (Answers 10) {} handover t := by
    refine ⟨_, Run.cons ⟨?_, rfl⟩ (Run.cons ⟨?_, rfl⟩ (Run.cons ⟨?_, rfl⟩ (Run.cons ⟨trivial, rfl⟩
      (Run.cons ⟨?_, rfl⟩ (Run.cons ⟨trivial, rfl⟩ (Run.single ⟨?_, rfl⟩))))))⟩ <;>
    exact ⟨by decide, by decide⟩
  have ben : HeldBy "ben" agendaLock handover :=
    ⟨handover.take 6, 13, [], rfl, fun e he => nomatch he⟩
  obtain ⟨unique, next⟩ := exclusive_of_run run
  refine ⟨t, run, ben, fun ann => ?_, next⟩
  have same := unique agendaLock "ann" "ben" ann ben
  simp at same

end TypedWiki

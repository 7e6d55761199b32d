import Mathlib.Logic.Function.Basic
import TypedWiki.Proofs.Run
import TypedWiki.Store.Transaction

/-!
# Interleaved edits — clients that edit one document step by step

Clients with owners of their own share a store and a lock table and run calls of `editDocument` on one document.  A
call is five steps: take the lock, load, edit, save, give the lock back; `ClientStep` makes one of them for one
client, so that a `Run` is any interleaving of the calls of all clients.

* `Stage`: how far a client is in its call, with the copy of the document that it works on.
* `TimelyStep`: no lock runs out while its client still works under it, and no expiry is beyond the clock.
* `runsAlone_editDocument`: the steps of one client without interruption are `editDocument`.
-/

namespace TypedWiki

/-- An edit and the comment under which its outcome is saved. -/
structure EditCall where
  comment : String
  edit : Document → Except Error (Bool × Document)

namespace EditCall

/-- A changed document is still the primary view of the same document. -/
def KeepsView (call : EditCall) : Prop :=
  ∀ d d', call.edit d = .ok (true, d') → d'.ref = d.ref ∧ d'.isPrimary = d.isPrimary

/-- The document after an edit that reports a change. -/
def outcome (call : EditCall) (d : Document) : Option Document :=
  match call.edit d with
  | .ok (true, d') => some d'
  | _ => none

/-- Edits applied one after the other, each to the outcome of the one before. -/
def replay (calls : List EditCall) (d : Document) : Option Document :=
  calls.foldlM (fun d call => call.outcome d) d

theorem replay_concat (calls : List EditCall) (call : EditCall) (d : Document) :
    replay (calls ++ [call]) d = (replay calls d).bind call.outcome := by
  simp [replay]

end EditCall

/-- How far a client is in its call. -/
inductive Stage where
  /-- Between two calls, with the result of the last one. -/
  | resting (last : Option (Except Error Bool))
  /-- The lock is taken at a time. -/
  | locked (call : EditCall) (since : Nat)
  /-- A copy of the document is loaded. -/
  | loaded (call : EditCall) (since : Nat) (d : Document)
  /-- The copy was changed and is to be saved. -/
  | edited (call : EditCall) (since : Nat) (d : Document)
  /-- The result is known and the lock not yet given back. -/
  | leaving (since : Nat) (result : Except Error Bool)

namespace Stage

/-- When the lock was taken under which the client works. -/
def since? : Stage → Option Nat
  | resting _ => none
  | locked _ since => some since
  | loaded _ since _ => some since
  | edited _ since _ => some since
  | leaving since _ => some since

/-- The stage after an attempt to take the lock. -/
def afterLock (ref : DocumentRef) (call : EditCall) (now : Nat) : Except StoreError Bool → Stage
  | .error e => .resting (some (.error (.store e)))
  | .ok false => .resting (some (.error (.store (.lockUnavailable ref editLockName))))
  | .ok true => .locked call now

/-- The stage after loading. -/
def afterLoad (call : EditCall) (since : Nat) : Except Error Document → Stage
  | .error e => .leaving since (.error e)
  | .ok d => .loaded call since d

/-- The stage after the edit. -/
def afterEdit (call : EditCall) (since : Nat) : Except Error (Bool × Document) → Stage
  | .error e => .leaving since (.error e)
  | .ok (false, _) => .leaving since (.ok false)
  | .ok (true, d) => .edited call since d

end Stage

/-- Clients of one document. -/
structure Clients (ι : Type) where
  /-- The lock owner that a client is. -/
  owner : ι → String
  ref : DocumentRef
  /-- For how long locks hold. -/
  ttl : Nat

/-- A step of a client; a step that takes or tries to take the lock reads the clock. -/
inductive ClientEvent (ι : Type) where
  | lock (i : ι) (call : EditCall) (now : Nat)
  | load (i : ι)
  | edit (i : ι)
  | save (i : ι) (call : EditCall)
  | saveFailed (i : ι)
  | unlock (i : ι)

/-- The client that makes a step. -/
def ClientEvent.client {ι : Type} : ClientEvent ι → ι
  | lock i _ _ => i
  | load i => i
  | edit i => i
  | save i _ => i
  | saveFailed i => i
  | unlock i => i

/-- The calls that are begun in a run. -/
def begunCalls {ι : Type} (es : List (ClientEvent ι)) : List EditCall :=
  es.filterMap fun
    | .lock _ call _ => some call
    | _ => none

/-- The calls whose save has happened, in the order of the saves. -/
def savedCalls {ι : Type} (es : List (ClientEvent ι)) : List EditCall :=
  es.filterMap fun
    | .save _ call => some call
    | _ => none

theorem savedCalls_append {ι : Type} (es fs : List (ClientEvent ι)) :
    savedCalls (es ++ fs) = savedCalls es ++ savedCalls fs :=
  List.filterMap_append

theorem begunCalls_append {ι : Type} (es fs : List (ClientEvent ι)) :
    begunCalls (es ++ fs) = begunCalls es ++ begunCalls fs :=
  List.filterMap_append

/-- The shared services and the stage of every client. -/
structure Clients.State (σ ι : Type) where
  host : Host σ
  stage : ι → Stage

section

variable {σ ι : Type} [DocumentStore σ] [DecidableEq ι]

/-- A client moves on and leaves the shared services in a new state. -/
def Clients.State.move (s : Clients.State σ ι) (i : ι) (host : Host σ) (stage : Stage) : Clients.State σ ι :=
  ⟨host, Function.update s.stage i stage⟩

/-- One step of one client. -/
inductive ClientStep (P : Clients ι) : Clients.State σ ι → ClientEvent ι → Clients.State σ ι → Prop where
  | lock {s : Clients.State σ ι} {i : ι} {call : EditCall} {now : Nat} {last : Option (Except Error Bool)}
      (h : s.stage i = .resting last) :
      ClientStep P s (.lock i call now)
        (s.move i { s.host with locks := (s.host.locks.tryLock now P.ttl (P.owner i) P.ref editLockName).2 }
          (Stage.afterLock P.ref call now (s.host.locks.tryLock now P.ttl (P.owner i) P.ref editLockName).1))
  | load {s : Clients.State σ ι} {i : ι} {call : EditCall} {since : Nat} (h : s.stage i = .locked call since) :
      ClientStep P s (.load i) (s.move i s.host (Stage.afterLoad call since (DocumentStore.load s.host.store P.ref)))
  | edit {s : Clients.State σ ι} {i : ι} {call : EditCall} {since : Nat} {d : Document}
      (h : s.stage i = .loaded call since d) :
      ClientStep P s (.edit i) (s.move i s.host (Stage.afterEdit call since (call.edit d)))
  | save {s : Clients.State σ ι} {i : ι} {call : EditCall} {since : Nat} {d : Document} {store : σ}
      (h : s.stage i = .edited call since d) (hs : DocumentStore.save s.host.store d call.comment = .ok store) :
      ClientStep P s (.save i call) (s.move i { s.host with store := store } (.leaving since (.ok true)))
  | saveFailed {s : Clients.State σ ι} {i : ι} {call : EditCall} {since : Nat} {d : Document} {e : Error}
      (h : s.stage i = .edited call since d) (hs : DocumentStore.save s.host.store d call.comment = .error e) :
      ClientStep P s (.saveFailed i) (s.move i s.host (.leaving since (.error e)))
  | unlock {s : Clients.State σ ι} {i : ι} {since : Nat} {result : Except Error Bool}
      (h : s.stage i = .leaving since result) :
      ClientStep P s (.unlock i)
        (s.move i { s.host with locks := (s.host.locks.unlock (P.owner i) P.ref editLockName).2 }
          (.resting (some result)))

/-- When the clock is read no lock under which a client works has run out, and the new expiry is on the clock. -/
def InTime (P : Clients ι) (s : Clients.State σ ι) : ClientEvent ι → Prop
  | .lock _ _ now =>
    now + P.ttl < LockTable.clockLimit ∧ ∀ j since, (s.stage j).since? = some since → now < since + P.ttl
  | _ => True

/-- A step during which no lock runs out. -/
def TimelyStep (P : Clients ι) (s : Clients.State σ ι) (e : ClientEvent ι) (t : Clients.State σ ι) : Prop :=
  ClientStep P s e t ∧ InTime P s e

/-! ### One client without interruption -/

omit [DocumentStore σ] in
theorem move_move (s : Clients.State σ ι) (i : ι) (host host' : Host σ) (stage stage' : Stage) :
    (s.move i host stage).move i host' stage' = s.move i host' stage' := by
  simp [Clients.State.move]

omit [DocumentStore σ] in
@[simp] theorem move_host (s : Clients.State σ ι) (i : ι) (host : Host σ) (stage : Stage) :
    (s.move i host stage).host = host := rfl

omit [DocumentStore σ] in
@[simp] theorem move_stage (s : Clients.State σ ι) (i : ι) (host : Host σ) (stage : Stage) :
    (s.move i host stage).stage i = stage := by
  simp [Clients.State.move]

omit [DocumentStore σ] in
theorem move_stage_of_ne {s : Clients.State σ ι} {i j : ι} {host : Host σ} {stage : Stage} (h : j ≠ i) :
    (s.move i host stage).stage j = s.stage j := by
  simp [Clients.State.move, h]

/-- The edit of a call among shared services that it does not use. -/
def EditCall.alone (call : EditCall) : DocumentEdit σ Id := fun d host => pure (call.edit d, host)

/-- Steps of one client alone lead from one state to another. -/
def RunsAlone (P : Clients ι) (i : ι) (s t : Clients.State σ ι) : Prop :=
  ∃ es, (∀ e ∈ es, e.client = i) ∧ Run (ClientStep P) s es t

theorem RunsAlone.refl {P : Clients ι} (i : ι) (s : Clients.State σ ι) : RunsAlone P i s s :=
  ⟨[], by simp, Run.nil s⟩

theorem RunsAlone.cons {P : Clients ι} {i : ι} {s t u : Clients.State σ ι} {e : ClientEvent ι}
    (h : ClientStep P s e t) (he : e.client = i) (h' : RunsAlone P i t u) : RunsAlone P i s u := by
  obtain ⟨es, hes, hrun⟩ := h'
  refine ⟨e :: es, ?_, Run.cons h hrun⟩
  intro f hf
  rcases List.mem_cons.1 hf with rfl | hf
  · exact he
  · exact hes f hf

/-- The state after a call of a client has ended with a result. -/
def Clients.State.finish (P : Clients ι) (s : Clients.State σ ι) (i : ι) (out : Except Error Bool × Host σ) :
    Clients.State σ ι :=
  s.move i { out.2 with locks := (out.2.locks.unlock (P.owner i) P.ref editLockName).2 } (.resting (some out.1))

omit [DocumentStore σ] in
theorem finish_move {P : Clients ι} (s : Clients.State σ ι) (i : ι) (host : Host σ) (stage : Stage)
    (out : Except Error Bool × Host σ) : (s.move i host stage).finish P i out = s.finish P i out :=
  move_move s i host _ stage _

theorem runsAlone_unlock {P : Clients ι} {s : Clients.State σ ι} {i : ι} {since : Nat}
    {result : Except Error Bool} (h : s.stage i = .leaving since result) :
    RunsAlone P i s (s.finish P i (result, s.host)) :=
  RunsAlone.cons (ClientStep.unlock h) rfl (RunsAlone.refl i _)

/-- From the outcome of the edit on, a client finishes its call. -/
theorem runsAlone_finishEdit {P : Clients ι} {s : Clients.State σ ι} {i : ι} {call : EditCall} {since : Nat}
    {result : Except Error (Bool × Document)} (h : s.stage i = Stage.afterEdit call since result) :
    RunsAlone P i s (s.finish P i (finishEdit call.comment s.host result)) := by
  rcases result with e | ⟨changed, d⟩
  · exact runsAlone_unlock h
  · cases changed with
    | false => exact runsAlone_unlock h
    | true =>
      cases hs : DocumentStore.save s.host.store d call.comment with
      | error e =>
        have hout : finishEdit call.comment s.host (.ok (true, d)) = (.error e, s.host) := by
          simp [finishEdit, hs]
        rw [hout]
        refine RunsAlone.cons (ClientStep.saveFailed h hs) rfl ?_
        rw [← finish_move s i s.host (.leaving since (.error e))]
        exact runsAlone_unlock (move_stage ..)
      | ok store =>
        have hout : finishEdit call.comment s.host (.ok (true, d)) =
            (.ok true, { s.host with store := store }) := by
          simp [finishEdit, hs]
        rw [hout]
        refine RunsAlone.cons (ClientStep.save h hs) rfl ?_
        rw [← finish_move s i { s.host with store := store } (.leaving since (.ok true))]
        exact runsAlone_unlock (move_stage ..)

/-- Under its lock a client loads, edits and finishes. -/
theorem runsAlone_runEdit {P : Clients ι} {s : Clients.State σ ι} {i : ι} {call : EditCall} {since : Nat}
    (h : s.stage i = .locked call since) :
    RunsAlone P i s (s.finish P i (Id.run (runEdit s.host P.ref call.comment call.alone))) := by
  refine RunsAlone.cons (ClientStep.load h) rfl ?_
  cases hd : DocumentStore.load s.host.store P.ref with
  | error e =>
    have hout : Id.run (runEdit s.host P.ref call.comment call.alone) = (.error e, s.host) := by
      simp [runEdit, hd]
    rw [hout, ← finish_move s i s.host (.leaving since (.error e))]
    exact runsAlone_unlock (move_stage ..)
  | ok d =>
    have hout : Id.run (runEdit s.host P.ref call.comment call.alone) =
        finishEdit call.comment s.host (call.edit d) := by
      simp [runEdit, hd, EditCall.alone]
    refine RunsAlone.cons (ClientStep.edit (move_stage ..)) rfl ?_
    rw [hout, move_move, ← finish_move s i s.host (Stage.afterEdit call since (call.edit d))]
    exact runsAlone_finishEdit (move_stage ..)

/-- **The steps of one client without interruption are a whole call of `editDocument`.** -/
theorem runsAlone_editDocument (P : Clients ι) {s : Clients.State σ ι} {i : ι} (call : EditCall) (now : Nat)
    {last : Option (Except Error Bool)} (h : s.stage i = .resting last) :
    RunsAlone P i s
      (s.move i (Id.run (editDocument ⟨P.owner i, now, P.ttl⟩ s.host P.ref call.comment call.alone)).2
        (.resting
          (some (Id.run (editDocument ⟨P.owner i, now, P.ttl⟩ s.host P.ref call.comment call.alone)).1))) := by
  have hlock : ClientStep P s (.lock i call now) _ := ClientStep.lock h
  refine RunsAlone.cons hlock rfl ?_
  rcases hl : s.host.locks.tryLock now P.ttl (P.owner i) P.ref editLockName with ⟨e | taken, locks⟩
  · simpa [editDocument, hl, Stage.afterLock] using RunsAlone.refl i _
  · cases taken with
    | false => simpa [editDocument, hl, Stage.afterLock] using RunsAlone.refl i _
    | true =>
      have hrun := runsAlone_runEdit (P := P) (move_stage s i { s.host with locks := locks } (.locked call now))
      rw [finish_move] at hrun
      simpa [editDocument, hl, Stage.afterLock, Clients.State.finish] using hrun

end

end TypedWiki

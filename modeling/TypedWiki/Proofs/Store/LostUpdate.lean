import TypedWiki.Proofs.Store.Interleaving

/-!
# No lost update — interleaved edits add up

Each client works on a copy that it loaded earlier, and yet no save overwrites another one: between loading and saving
a client holds the lock, and while it does nobody else saves.

* `Stage.Fits`: a client at work is the holder in the lock table, and its copy is still the stored document, or the
  outcome of its edit on the stored document.
* `Consistent`: the invariant.  All stages fit, and the stored document is the replay of the calls saved so far.
* `consistent_step`: one step of any client keeps it.
* `replay_savedCalls`: the stored document and its history after any run.
-/

namespace TypedWiki

open EditCall (replay)

variable {ι : Type}

/-! ### The invariant -/

/-- A client is the holder of the edit lock, which it took at a time. -/
def Holds (P : Clients ι) (host : Host MemoryStore) (i : ι) (since : Nat) : Prop :=
  host.locks.locks.get? (P.ref, editLockName) = some ⟨P.owner i, since + P.ttl⟩

/-- What the stage of a client says about the shared services. -/
def Stage.Fits (P : Clients ι) (host : Host MemoryStore) (i : ι) : Stage → Prop
  | resting _ => True
  | locked call since => Holds P host i since ∧ call.KeepsView
  | loaded call since d => Holds P host i since ∧ call.KeepsView ∧ d = host.store.document P.ref
  | edited call since d =>
    Holds P host i since ∧ call.KeepsView ∧ call.edit (host.store.document P.ref) = .ok (true, d)
  | leaving since _ => Holds P host i since

/-- What holds after the steps `es` from the store `m`. -/
structure Consistent (P : Clients ι) (m : MemoryStore) (es : List (ClientEvent ι))
    (s : Clients.State MemoryStore ι) : Prop where
  built : s.host.store.Built
  fits : ∀ i, (s.stage i).Fits P s.host i
  replayed : replay (savedCalls es) (m.document P.ref) = some (s.host.store.document P.ref)
  commented : s.host.store.history P.ref = m.history P.ref ++ (savedCalls es).map EditCall.comment

theorem Stage.Fits.holds {P : Clients ι} {host : Host MemoryStore} {i : ι} {stage : Stage} {since : Nat}
    (h : stage.Fits P host i) (hs : stage.since? = some since) : Holds P host i since := by
  cases stage with
  | resting last => simp [Stage.since?] at hs
  | locked call since' =>
    obtain rfl : since' = since := by simpa [Stage.since?] using hs
    exact h.1
  | loaded call since' d =>
    obtain rfl : since' = since := by simpa [Stage.since?] using hs
    exact h.1
  | edited call since' d =>
    obtain rfl : since' = since := by simpa [Stage.since?] using hs
    exact h.1
  | leaving since' result =>
    obtain rfl : since' = since := by simpa [Stage.since?] using hs
    exact h

/-- A client without a lock fits in whatever the services are. -/
theorem Stage.fits_of_since?_eq_none {P : Clients ι} {host : Host MemoryStore} {i : ι} {stage : Stage}
    (h : stage.since? = none) : stage.Fits P host i := by
  cases stage with
  | resting last => trivial
  | locked call since => cases h
  | loaded call since d => cases h
  | edited call since d => cases h
  | leaving since result => cases h

/-- Only the stored documents and the held locks matter. -/
theorem Stage.Fits.congr {P : Clients ι} {host host' : Host MemoryStore} {i : ι} {stage : Stage}
    (h : stage.Fits P host i) (hl : host'.locks.locks = host.locks.locks) (hs : host'.store = host.store) :
    stage.Fits P host' i := by
  cases stage with
  | resting last => trivial
  | locked call since => simpa [Stage.Fits, Holds, hl] using h
  | loaded call since d => simpa [Stage.Fits, Holds, hl, hs] using h
  | edited call since d => simpa [Stage.Fits, Holds, hl, hs] using h
  | leaving since result => simpa [Stage.Fits, Holds, hl] using h

theorem Consistent.init {P : Clients ι} {s : Clients.State MemoryStore ι} (hb : s.host.store.Built)
    (hr : ∀ i, ∃ last, s.stage i = .resting last) : Consistent P s.host.store [] s where
  built := hb
  fits i := by
    obtain ⟨last, hl⟩ := hr i
    rw [hl]
    trivial
  replayed := rfl
  commented := by simp [savedCalls]

/-- At most one client is at work. -/
theorem Consistent.unique {P : Clients ι} (hinj : Function.Injective P.owner) {m : MemoryStore}
    {es : List (ClientEvent ι)} {s : Clients.State MemoryStore ι} (h : Consistent P m es s) {i j : ι} {t u : Nat}
    (hi : (s.stage i).since? = some t) (hj : (s.stage j).since? = some u) : i = j := by
  have hij := ((h.fits i).holds hi).symm.trans ((h.fits j).holds hj)
  simp only [Option.some.injEq, Lock.mk.injEq] at hij
  exact hinj hij.1

/-- While one client is at work all others rest. -/
theorem Consistent.since?_eq_none {P : Clients ι} (hinj : Function.Injective P.owner) {m : MemoryStore}
    {es : List (ClientEvent ι)} {s : Clients.State MemoryStore ι} (h : Consistent P m es s) {i j : ι} {t : Nat}
    (hi : (s.stage i).since? = some t) (hne : j ≠ i) : (s.stage j).since? = none := by
  cases hj : (s.stage j).since? with
  | none => rfl
  | some u => exact absurd (h.unique hinj hj hi) hne

/-! ### One step -/

/-- A step that saves nothing keeps what is known of the store. -/
theorem Consistent.snoc {P : Clients ι} {m : MemoryStore} {es : List (ClientEvent ι)}
    {s t : Clients.State MemoryStore ι} {e : ClientEvent ι} (h : Consistent P m es s) (hsaved : savedCalls [e] = [])
    (hstore : t.host.store = s.host.store) (hfits : ∀ j, (t.stage j).Fits P t.host j) :
    Consistent P m (es ++ [e]) t := by
  have hcalls : savedCalls (es ++ [e]) = savedCalls es := by
    rw [savedCalls_append, hsaved, List.append_nil]
  constructor
  · rw [hstore]
    exact h.built
  · exact hfits
  · rw [hcalls, hstore]
    exact h.replayed
  · rw [hcalls, hstore]
    exact h.commented

section Step

variable [DecidableEq ι] {P : Clients ι} {m : MemoryStore} {es : List (ClientEvent ι)}
  {s : Clients.State MemoryStore ι} {i : ι}

theorem fits_move {host : Host MemoryStore} {stage : Stage}
    (hother : ∀ j, j ≠ i → (s.stage j).Fits P host j) (hi : stage.Fits P host i) (j : ι) :
    ((s.move i host stage).stage j).Fits P (s.move i host stage).host j := by
  rw [move_host]
  by_cases h : j = i
  · subst h
    rwa [move_stage]
  · rw [move_stage_of_ne h]
    exact hother j h

/-- An attempt to take the lock: it succeeds only when all clients rest. -/
theorem Consistent.lock (hinj : Function.Injective P.owner) (h : Consistent P m es s) {call : EditCall} {now : Nat}
    (hc : call.KeepsView) (ht : InTime P s (.lock i call now)) :
    Consistent P m (es ++ [.lock i call now])
      (s.move i { s.host with locks := (s.host.locks.tryLock now P.ttl (P.owner i) P.ref editLockName).2 }
        (Stage.afterLock P.ref call now (s.host.locks.tryLock now P.ttl (P.owner i) P.ref editLockName).1)) := by
  refine h.snoc rfl rfl (fits_move ?_ ?_)
  · intro j hj
    by_cases htaken : (s.host.locks.tryLock now P.ttl (P.owner i) P.ref editLockName).1 = .ok true
    · apply Stage.fits_of_since?_eq_none
      cases hw : (s.stage j).since? with
      | none => rfl
      | some since =>
        -- a client at work would have kept the lock from being taken
        have hfree := (LockTable.tryLock_eq_ok_true htaken).1
        have howner : P.owner j ≠ P.owner i := fun he => hj (hinj he)
        have hlater := ht.2 j since hw
        rw [LockTable.heldByOther, (h.fits j).holds hw] at hfree
        simp [howner] at hfree
        omega
    · exact (h.fits j).congr (LockTable.locks_tryLock_of_ne htaken) rfl
  · cases hr : (s.host.locks.tryLock now P.ttl (P.owner i) P.ref editLockName).1 with
    | error e => trivial
    | ok taken =>
      cases taken with
      | false => trivial
      | true =>
        refine ⟨?_, hc⟩
        rw [Holds, (LockTable.tryLock_eq_ok_true hr).2, OrderedMap.get?_insert, if_pos rfl]

/-- Loading: the copy is the stored document. -/
theorem Consistent.load (h : Consistent P m es s) {call : EditCall} {since : Nat}
    (hi : s.stage i = .locked call since) :
    Consistent P m (es ++ [.load i])
      (s.move i s.host (Stage.afterLoad call since (DocumentStore.load s.host.store P.ref))) := by
  have hfits := h.fits i
  rw [hi] at hfits
  exact h.snoc rfl rfl (fits_move (fun j _ => h.fits j) ⟨hfits.1, hfits.2, rfl⟩)

/-- Editing: the outcome is that of the edit on the stored document. -/
theorem Consistent.edit (h : Consistent P m es s) {call : EditCall} {since : Nat} {d : Document}
    (hi : s.stage i = .loaded call since d) :
    Consistent P m (es ++ [.edit i]) (s.move i s.host (Stage.afterEdit call since (call.edit d))) := by
  have hfits := h.fits i
  rw [hi] at hfits
  obtain ⟨hheld, hkeeps, rfl⟩ := hfits
  refine h.snoc rfl rfl (fits_move (fun j _ => h.fits j) ?_)
  rcases hr : call.edit (s.host.store.document P.ref) with e | ⟨changed, d'⟩
  · exact hheld
  · cases changed with
    | false => exact hheld
    | true => exact ⟨hheld, hkeeps, hr⟩

/-- Saving: the outcome of the edit becomes the stored document, while all other clients rest. -/
theorem Consistent.save (hinj : Function.Injective P.owner) (h : Consistent P m es s) {call : EditCall} {since : Nat}
    {d : Document} {store : MemoryStore} (hi : s.stage i = .edited call since d)
    (hs : s.host.store.save d call.comment = .ok store) :
    Consistent P m (es ++ [.save i call])
      (s.move i { s.host with store := store } (.leaving since (.ok true))) := by
  have hfits := h.fits i
  rw [hi] at hfits
  obtain ⟨hheld, hkeeps, hedit⟩ := hfits
  obtain ⟨-, rfl⟩ := MemoryStore.save_eq_ok_iff.1 hs
  have href : d.ref = P.ref := (hkeeps _ _ hedit).1.trans (h.built.document P.ref).1
  have hcalls : savedCalls (es ++ [.save i call]) = savedCalls es ++ [call] := savedCalls_append es _
  have hrest : ∀ j, j ≠ i → (s.stage j).since? = none := fun j hj =>
    h.since?_eq_none hinj (show (s.stage i).since? = some since by rw [hi]; rfl) hj
  constructor
  · exact h.built.save hs
  · exact fits_move (fun j hj => Stage.fits_of_since?_eq_none (hrest j hj)) hheld
  · have houtcome : call.outcome (s.host.store.document P.ref) = some d := by
      rw [EditCall.outcome, hedit]
    rw [hcalls, EditCall.replay_concat, h.replayed, Option.bind_some, houtcome, move_host,
      MemoryStore.document_put, if_pos href]
  · rw [hcalls, move_host, MemoryStore.history_put, if_pos href, h.commented, List.map_append, List.append_assoc]
    rfl

/-- A save that fails changes nothing that is shared. -/
theorem Consistent.saveFailed (h : Consistent P m es s) {call : EditCall} {since : Nat} {d : Document}
    (hi : s.stage i = .edited call since d) (e : Error) :
    Consistent P m (es ++ [.saveFailed i]) (s.move i s.host (.leaving since (.error e))) := by
  have hfits := h.fits i
  rw [hi] at hfits
  exact h.snoc rfl rfl (fits_move (fun j _ => h.fits j) hfits.1)

/-- Giving the lock back, while all other clients rest. -/
theorem Consistent.unlock (hinj : Function.Injective P.owner) (h : Consistent P m es s) {since : Nat}
    {result : Except Error Bool} (hi : s.stage i = .leaving since result) :
    Consistent P m (es ++ [.unlock i])
      (s.move i { s.host with locks := (s.host.locks.unlock (P.owner i) P.ref editLockName).2 }
        (.resting (some result))) := by
  have hrest : ∀ j, j ≠ i → (s.stage j).since? = none := fun j hj =>
    h.since?_eq_none hinj (show (s.stage i).since? = some since by rw [hi]; rfl) hj
  exact h.snoc rfl rfl (fits_move (fun j hj => Stage.fits_of_since?_eq_none (hrest j hj)) trivial)

/-- One step of any client keeps the invariant. -/
theorem consistent_step (hinj : Function.Injective P.owner) (h : Consistent P m es s) {e : ClientEvent ι}
    {t : Clients.State MemoryStore ι} (hstep : TimelyStep P s e t)
    (hcalls : ∀ call ∈ begunCalls [e], call.KeepsView) : Consistent P m (es ++ [e]) t := by
  obtain ⟨hstep, ht⟩ := hstep
  cases hstep with
  | lock _ => exact h.lock hinj (hcalls _ (by simp [begunCalls])) ht
  | load hi => exact h.load hi
  | edit hi => exact h.edit hi
  | save hi hs => exact h.save hinj hi (MemoryStore.store_save_eq_ok_iff.1 hs)
  | saveFailed hi hs => exact h.saveFailed hi _
  | unlock hi => exact h.unlock hinj hi

/-! ### Whole runs -/

theorem consistent_of_run (hinj : Function.Injective P.owner) {t : Clients.State MemoryStore ι}
    (hb : s.host.store.Built) (hr : ∀ i, ∃ last, s.stage i = .resting last) (hrun : Run (TimelyStep P) s es t)
    (hcalls : ∀ call ∈ begunCalls es, call.KeepsView) : Consistent P s.host.store es t := by
  induction hrun with
  | nil => exact Consistent.init hb hr
  | snoc _ step ih =>
    rw [begunCalls_append] at hcalls
    refine consistent_step hinj (ih ?_) step ?_
    · exact fun call hc => hcalls call (List.mem_append_left _ hc)
    · exact fun call hc => hcalls call (List.mem_append_right _ hc)

/-- **No lost update**: after any interleaving of calls the stored document is the replay of the calls that were
saved, in the order of the saves, and the history has grown by their comments. -/
theorem replay_savedCalls (hinj : Function.Injective P.owner) {t : Clients.State MemoryStore ι}
    (hb : s.host.store.Built) (hr : ∀ i, ∃ last, s.stage i = .resting last) (hrun : Run (TimelyStep P) s es t)
    (hcalls : ∀ call ∈ begunCalls es, call.KeepsView) :
    replay (savedCalls es) (s.host.store.document P.ref) = some (t.host.store.document P.ref) ∧
      t.host.store.history P.ref = s.host.store.history P.ref ++ (savedCalls es).map EditCall.comment := by
  have h := consistent_of_run hinj hb hr hrun hcalls
  exact ⟨h.replayed, h.commented⟩

end Step

/-! ### Two clients -/

/-- Two clients of one document. -/
def twoClients : Clients Bool := ⟨fun i => if i then "a" else "b", ⟨"w", "s", "d"⟩, 10⟩

/-- An edit that adds a word to the title. -/
def addWord (word : String) : EditCall :=
  ⟨word, fun d =>
    let title := ((d.field? "title").map Value.rawText).getD ""
    .ok (true, (d.setField "title" (some (.text (title ++ word)))).2)⟩

theorem keepsView_addWord (word : String) : (addWord word).KeepsView := by
  intro d d' h
  simp only [addWord, Except.ok.injEq, Prod.mk.injEq, true_and] at h
  subst h
  exact ⟨rfl, rfl⟩

/-- Both clients add a word; the second is refused once while the first is at work. -/
def twoEdits : List (ClientEvent Bool) :=
  [.lock true (addWord "x") 0, .load true, .lock false (addWord "z") 1, .edit true, .save true (addWord "x"),
    .unlock true, .lock false (addWord "y") 2, .load false, .edit false, .save false (addWord "y")]

/-- Nothing is stored and nobody is at work. -/
def atRest : Clients.State MemoryStore Bool := ⟨⟨{}, {}⟩, fun _ => .resting none⟩

theorem replay_savedCalls_twoEdits :
    ∃ t, Run (TimelyStep twoClients) atRest twoEdits t ∧
      replay [addWord "x", addWord "y"] (atRest.host.store.document twoClients.ref) =
        some (t.host.store.document twoClients.ref) ∧
      t.host.store.history twoClients.ref = ["x", "y"] := by
  have hinj : Function.Injective twoClients.owner := by
    intro i j
    cases i <;> cases j <;> simp [twoClients]
  have hcalls : ∀ call ∈ begunCalls twoEdits, call.KeepsView := by
    intro call h
    simp only [begunCalls, twoEdits, List.filterMap_cons, List.filterMap_nil, List.mem_cons, List.not_mem_nil,
      or_false] at h
    rcases h with rfl | rfl | rfl <;> exact keepsView_addWord _
  have hrun : ∃ t, Run (TimelyStep twoClients) atRest twoEdits t := by
    refine ⟨_, Run.cons ⟨ClientStep.lock rfl, ?_⟩ (Run.cons ⟨ClientStep.load rfl, trivial⟩
      (Run.cons ⟨ClientStep.lock rfl, ?_⟩ (Run.cons ⟨ClientStep.edit rfl, trivial⟩
        (Run.cons ⟨ClientStep.save rfl rfl, trivial⟩ (Run.cons ⟨ClientStep.unlock rfl, trivial⟩
          (Run.cons ⟨ClientStep.lock rfl, ?_⟩ (Run.cons ⟨ClientStep.load rfl, trivial⟩
            (Run.cons ⟨ClientStep.edit rfl, trivial⟩
              (Run.single ⟨ClientStep.save rfl rfl, trivial⟩)))))))))⟩
    · refine ⟨by decide, ?_⟩
      rintro (_ | _) since h <;> cases h
    · refine ⟨by decide, ?_⟩
      rintro (_ | _) since h <;> cases h
      decide
    · refine ⟨by decide, ?_⟩
      rintro (_ | _) since h <;> cases h
  obtain ⟨t, hrun⟩ := hrun
  have h := replay_savedCalls hinj (MemoryStore.Built.empty "") (fun i => ⟨none, rfl⟩) hrun hcalls
  exact ⟨t, hrun, h.1, h.2⟩

end TypedWiki

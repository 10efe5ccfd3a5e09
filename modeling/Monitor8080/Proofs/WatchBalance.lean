import Monitor8080.Proofs.ConsumedEntries
namespace Monitor8080

/-!
# Watches and entries in balance

A watch is put on an address for every breakpoint that is placed there and
taken away for every entry that is removed. Two things leave a watch behind
that goes with no entry: a temporary breakpoint that is placed where there is
one already, and a step that ends at a permanent breakpoint while it consumes a
temporary one beside it. But for these leaks, an address is watched exactly as
often as entries wait there.
-/

namespace Breakpoints

variable {breakpoints added : Breakpoints} {kind : BreakKind} {location : Location}

/-- A temporary entry is added unless there is one already, and a permanent one always. -/
theorem add_eq (succeeded : breakpoints.add kind location = .ok added) :
    ∃ address,
      location.address? = some address ∧
        added =
          if location.isTemporary ∧ 0 < breakpoints.temporaries kind address then breakpoints
          else breakpoints.withEntries kind (breakpoints.entries kind ++ [location]) := by
  unfold add at succeeded
  split at succeeded
  · cases succeeded
  · rename_i address here
    refine ⟨address, here, ?_⟩
    have counted :
        0 < breakpoints.temporaries kind address ↔
          ∃ entry ∈ breakpoints.entries kind,
            entry.address? = some address ∧ entry.isTemporary := by
      simp [temporaries, List.countP_pos_iff, Location.isTemporaryAt]
    simp only at succeeded
    cases isTemporary : location.isTemporary with
    | true =>
        simp only [isTemporary, ↓reduceIte, List.any_eq_true, decide_eq_true_eq] at succeeded
        split at succeeded
        · rename_i present
          cases succeeded
          rw [if_pos ⟨rfl, counted.mpr present⟩]
        · rename_i absent
          cases succeeded
          rw [if_neg fun both => absent (counted.mp both.2)]
    | false =>
        simp only [isTemporary, Bool.false_eq_true, ↓reduceIte] at succeeded
        split at succeeded
        · cases succeeded
        · cases succeeded
          simp

/-- An entry that is added waits once more where it waits, unless a temporary one is there already. -/
theorem waiting_add
    (succeeded : breakpoints.add kind location = .ok added)
    (access : Access)
    (address : UInt16) :
    added.waiting access address +
        (if (location.isTemporary && 0 < breakpoints.temporaries kind address
            && waitsFor access address (kind, location)) then 1 else 0) =
      breakpoints.waiting access address +
        if waitsFor access address (kind, location) then 1 else 0 := by
  obtain ⟨place, here, rfl⟩ := add_eq succeeded
  by_cases waits : waitsFor access address (kind, location)
  · obtain ⟨sameKind, there⟩ := of_decide_eq_true waits
    have sameKind : kind = .ofAccess access := sameKind
    have samePlace : place = address := Option.some.inj (here.symm.trans there)
    subst kind place
    by_cases repeated :
        location.isTemporary ∧ 0 < breakpoints.temporaries (.ofAccess access) address
    · simp [repeated, waits]
    · rw [if_neg repeated, waiting, entries_withEntries, List.countP_append]
      have alone :
          (location.isTemporary &&
            decide (0 < breakpoints.temporaries (.ofAccess access) address)) = false := by
        simpa using repeated
      simp [alone, waits, here, waiting]
  · rw [Bool.not_eq_true] at waits
    simp only [waits, Bool.and_false, Bool.false_eq_true, ↓reduceIte, Nat.add_zero]
    split
    · rfl
    · by_cases sameKind : .ofAccess access = kind
      · subst kind
        have elsewhere : location.address? ≠ some address := by
          simpa [waitsFor] using waits
        simp [waiting, List.countP_append, elsewhere]
      · rw [waiting, entries_withEntries_of_ne sameKind]
        rfl

theorem SingleTemporaries.add
    (single : breakpoints.SingleTemporaries)
    (succeeded : breakpoints.add kind location = .ok added) :
    added.SingleTemporaries := by
  obtain ⟨place, here, rfl⟩ := add_eq succeeded
  split
  · exact single
  · rename_i new
    intro other address
    have before := single other address
    by_cases sameKind : other = kind
    · subst other
      rw [temporaries, entries_withEntries, List.countP_append, List.countP_singleton]
      by_cases counted : location.isTemporaryAt address
      · obtain ⟨there, isTemporary⟩ := Bool.and_eq_true_iff.mp counted
        have samePlace : place = address :=
          Option.some.inj (here.symm.trans (of_decide_eq_true there))
        subst place
        have absent : ¬ 0 < breakpoints.temporaries kind address :=
          fun present => new ⟨isTemporary, present⟩
        rw [if_pos counted]
        rw [temporaries] at absent
        omega
      · rw [if_neg counted]
        exact before
    · rwa [temporaries, entries_withEntries_of_ne sameKind]

theorem countP_picked_le
    (breakpoints : Breakpoints)
    (test : Location → Bool)
    (access : Access)
    (address : UInt16) :
    (breakpoints.picked test).countP (waitsFor access address) ≤
      breakpoints.waiting access address := by
  rw [countP_picked]
  exact List.filter_sublist.countP_le

end Breakpoints

/-! ## Leaks -/

/--
Whether a deed leaves a watch behind that goes with no entry: a temporary
breakpoint where there is one already, or a step that consumes a temporary
entry without ending at it.
-/
def Moment.leaks (access : Access) (address : UInt16) (moment : Moment) : Bool :=
  match moment.deed with
  | .place kind location =>
      location.isTemporary
        && 0 < moment.session.monitor.sentry.breakpoints.temporaries kind address
        && waitsFor access address (kind, location)
  | .step =>
      moment.session.step.1.consumes access address
        && !moment.session.step.1.releases access address
  | _ => false

namespace Session

/-- Every address is watched as often as at first, once for every entry that waits there and
once for every leak. -/
structure Balanced
    (first : Memory)
    (leaked : Access → UInt16 → Nat)
    (session : Session) : Prop where
  idle : session.monitor.sentry.pending? = none
  single : session.monitor.sentry.breakpoints.SingleTemporaries
  count :
    ∀ access address,
      session.machine.memory.watchCount access address =
        first.watchCount access address +
          session.monitor.sentry.breakpoints.waiting access address +
          leaked access address

theorem Does.singleTemporaries
    {before after : Session}
    {deed : Deed}
    (does : before.Does deed after)
    (single : before.monitor.sentry.breakpoints.SingleTemporaries) :
    after.monitor.sentry.breakpoints.SingleTemporaries := by
  by_cases places : ∃ kind location, deed = .place kind location
  · obtain ⟨kind, location, rfl⟩ := places
    cases does with
    | place placed =>
        exact single.add (placeBreakpoint_ok placed).1
  · exact single.mono (does.entries_sublist fun kind location same => places ⟨kind, location, same⟩)

/-- What a step takes from the watches and from the entries differs by what it leaks. -/
theorem step_balance
    {session : Session}
    (accounts : session.Accounts)
    (access : Access)
    (address : UInt16) :
    (if session.step.1.consumes access address then 1 else 0) =
      (if session.step.1.releases access address then 1 else 0) +
        if Moment.leaks access address ⟨session, .step⟩ then 1 else 0 := by
  have released := accounts.released access address
  rw [Moment.leaks]
  -- An entry that is consumed leaks its watch unless the step ends at that very entry.
  cases consumes : session.step.1.consumes access address with
  | true =>
      cases session.step.1.releases access address <;> rfl
  | false =>
      rw [consumes] at released
      have unreleased : session.step.1.releases access address = false := by
        simpa using released
      simp [unreleased]

/-- A deed keeps the balance, if what it leaks is counted. -/
theorem Does.balanced
    {before after : Session}
    {deed : Deed}
    (does : before.Does deed after)
    {first : Memory}
    {leaked : Access → UInt16 → Nat}
    (balanced : before.Balanced first leaked) :
    after.Balanced first fun access address =>
      leaked access address + if Moment.leaks access address ⟨before, deed⟩ then 1 else 0 := by
  refine ⟨does.idle balanced.idle, does.singleTemporaries balanced.single, ?_⟩
  intro access address
  have count := balanced.count access address
  cases does with
  | step =>
      have accounts := step_accounts balanced.idle balanced.single
      have waiting := accounts.waiting access address
      rw [step_balance accounts] at waiting
      rw [watchCount_step, count]
      omega
  | adjust adjusts =>
      rw [adjusts.breakpoints, Memory.watchCount, adjusts.watches]
      exact count
  | @place _ kind location placed =>
      obtain ⟨added, -, machine⟩ := placeBreakpoint_ok placed
      have waiting := Breakpoints.waiting_add added access address
      have leaks :
          Moment.leaks access address ⟨before, .place kind location⟩ =
            (location.isTemporary
              && 0 < before.monitor.sentry.breakpoints.temporaries kind address
              && waitsFor access address (kind, location)) := rfl
      rw [machine, watchCount_watchFor, count, leaks]
      omega
  | remove address? =>
      obtain ⟨test, filtered, -, machine⟩ := before.removeBreakpoints_eq address?
      have fewer := before.monitor.sentry.breakpoints.countP_picked_le test access address
      rw [filtered, machine, watchCount_unwatchAll, Breakpoints.waiting_without, count]
      simp only [Moment.leaks, Bool.false_eq_true, ↓reduceIte, Nat.add_zero]
      omega
  | removeTemporary =>
      obtain ⟨filtered, -, machine⟩ := before.removeTemporaryBreakpoints_eq
      have fewer :=
        before.monitor.sentry.breakpoints.countP_picked_le (·.isTemporary) access address
      rw [filtered, machine, watchCount_unwatchAll, Breakpoints.waiting_without, count]
      simp only [Moment.leaks, Bool.false_eq_true, ↓reduceIte, Nat.add_zero]
      omega
  | arm number =>
      rw [startCountdown_breakpoints]
      exact count
  | enter =>
      rw [Run.enter_breakpoints, Run.enter_memory]
      exact count
  | mute =>
      exact count
  | unmute =>
      exact count
  | resume =>
      exact count

end Session

theorem Chronicle.balanced
    {before after : Session}
    {moments : List Moment}
    (chronicle : Chronicle before moments after)
    {first : Memory}
    {leaked : Access → UInt16 → Nat}
    (balanced : before.Balanced first leaked) :
    after.Balanced first fun access address =>
      leaked access address + moments.countP (·.leaks access address) := by
  induction chronicle generalizing leaked with
  | nil session =>
      exact balanced
  | cons does later inductionHypothesis =>
      obtain ⟨idle, single, count⟩ := inductionHypothesis (does.balanced balanced)
      refine ⟨idle, single, fun access address => ?_⟩
      rw [count, List.countP_cons]
      omega

/-- In a session that nothing was done with yet, watches and entries are in balance. -/
theorem Session.fresh_balanced
    (config : Config)
    (machine : Machine) :
    (fresh config machine).Balanced machine.memory fun _ _ => 0 where
  idle := fresh_pending? config machine
  single kind address := by
    rw [fresh_breakpoints]
    cases kind <;> exact Nat.zero_le 1
  count access address := by
    rw [fresh_breakpoints]
    cases access <;> rfl

/-! ## Sessions without leaks -/

/-- A deed places no temporary breakpoint but one that waits for a fetch. -/
def Deed.isLeakless : Deed → Prop
  | .place kind location => location.isTemporary → kind = .exec
  | _ => True

def Licence.leakless : Licence :=
  ⟨Deed.isLeakless, fun _ => True⟩

/-- No command places a temporary breakpoint that waits for an access. -/
theorem Licence.leakless_isKept : leakless.IsKept where
  basic deed basic := by
    cases deed with
    | place kind location =>
        cases basic
    | _ =>
        trivial
  permitted := by
    intro commands text command edit fits member parsed permits
    cases permits with
    | runTo text target =>
        exact fun _ => rfl
    | stepPast withRegisters target =>
        exact fun _ => rfl
    | place kind text target =>
        exact nofun
    | placeScript kind text script target =>
        exact nofun
    | _ =>
        trivial
  placed := fun _ _ _ _ _ _ _ _ _ => trivial

/-- No temporary entry waits for an access. -/
def Breakpoints.DataPermanent (breakpoints : Breakpoints) : Prop :=
  ∀ access address, breakpoints.temporaries (.ofAccess access) address = 0

namespace Session

theorem Does.dataPermanent
    {before after : Session}
    {deed : Deed}
    (does : before.Does deed after)
    (leakless : deed.isLeakless)
    (permanent : before.monitor.sentry.breakpoints.DataPermanent) :
    after.monitor.sentry.breakpoints.DataPermanent := by
  intro access address
  by_cases places : ∃ kind location, deed = .place kind location
  · obtain ⟨kind, location, rfl⟩ := places
    cases does with
    | place placed =>
        obtain ⟨added, -⟩ := placeBreakpoint_ok placed
        have noneBefore := permanent access address
        rw [Breakpoints.temporaries, List.countP_eq_zero] at noneBefore ⊢
        intro entry member
        rcases Breakpoints.mem_add added member with earlier | ⟨sameKind, rfl⟩
        · exact noneBefore entry earlier
        · intro isTemporary
          have forFetches := leakless (Bool.and_eq_true_iff.mp isTemporary).2
          rw [forFetches] at sameKind
          cases access <;> cases sameKind
  · have unplaced : ∀ kind location, deed ≠ .place kind location :=
      fun kind location same => places ⟨kind, location, same⟩
    have fewer :=
      Breakpoints.temporaries_le_of_sublist
        (does.entries_sublist unplaced (.ofAccess access)) address
    rw [permanent] at fewer
    exact Nat.le_zero.mp fewer

/-- A step leaks no watch while no temporary entry waits for an access. -/
theorem step_leaks_nothing
    {session : Session}
    (idle : session.monitor.sentry.pending? = none)
    (single : session.monitor.sentry.breakpoints.SingleTemporaries)
    (permanent : session.monitor.sentry.breakpoints.DataPermanent)
    (access : Access)
    (address : UInt16) :
    Moment.leaks access address ⟨session, .step⟩ = false := by
  have accounts := step_accounts idle single
  cases consumes : session.step.1.consumes access address with
  | true =>
      have present := accounts.temporary access address consumes
      rw [permanent] at present
      omega
  | false =>
      simp [Moment.leaks, consumes]

end Session

/-- Deeds that place no temporary breakpoint but for fetches leak no watch. -/
theorem Chronicle.leaks_nothing
    {first last : Session}
    {moments : List Moment}
    (chronicle : Chronicle first moments last)
    (leakless : ∀ moment ∈ moments, moment.deed.isLeakless)
    (idle : first.monitor.sentry.pending? = none)
    (single : first.monitor.sentry.breakpoints.SingleTemporaries)
    (permanent : first.monitor.sentry.breakpoints.DataPermanent)
    (access : Access)
    (address : UInt16) :
    moments.countP (·.leaks access address) = 0 := by
  induction chronicle with
  | nil session =>
      rfl
  | @cons before middle last deed rest does later inductionHypothesis =>
      have leaklessNow : deed.isLeakless := leakless ⟨before, deed⟩ List.mem_cons_self
      have leaksNothing : Moment.leaks access address ⟨before, deed⟩ = false := by
        cases does with
        | step =>
            exact Session.step_leaks_nothing idle single permanent access address
        | @place _ kind location placed =>
            by_cases isTemporary : location.isTemporary
            · have forFetches : kind = .exec := leaklessNow isTemporary
              cases access <;> simp [Moment.leaks, waitsFor, forFetches, BreakKind.ofAccess]
            · simp [Moment.leaks, isTemporary]
        | _ =>
            rfl
      rw [List.countP_cons, leaksNothing]
      exact
        inductionHypothesis (fun moment member => leakless moment (List.mem_cons_of_mem _ member))
          (does.idle idle) (does.singleTemporaries single)
          (does.dataPermanent leaklessNow permanent)

/-! ## What hosts call -/

/-- A call of a host: a request, or a change of the breakpoints without a line of the operator. -/
inductive HostCall where
  | request (request : Request)
  | place (kind : BreakKind) (location : Location)
  | remove (address? : Option UInt16)
  | removeTemporary
  deriving Repr, DecidableEq

namespace Session

/-- The session after one call; a breakpoint that is rejected changes nothing. -/
def answer (session : Session) : HostCall → Session
  | .request request => session.conduct [request]
  | .place kind location =>
      match session.placeBreakpoint kind location with
      | .ok placed => placed
      | .error _ => session
  | .remove address? => (session.removeBreakpoints address?).2
  | .removeTemporary => session.removeTemporaryBreakpoints.2

def serve (session : Session) (calls : List HostCall) : Session :=
  calls.foldl answer session

end Session

/-- Calls come down to allowed deeds, if any line is allowed and so are the breakpoints placed. -/
theorem Licence.IsKept.serve_leads
    {licence : Licence}
    (kept : licence.IsKept)
    (fits : ∀ commands, licence.fits commands)
    (session : Session)
    (calls : List HostCall)
    (allowed :
      ∀ kind location, .place kind location ∈ calls → licence.allows (.place kind location)) :
    licence.Leads session (session.serve calls) := by
  induction calls generalizing session with
  | nil =>
      exact leads_refl session
  | cons call rest inductionHypothesis =>
      have later :=
        inductionHypothesis (session.answer call) fun kind location member =>
          allowed kind location (List.mem_cons_of_mem call member)
      have answered : licence.Leads session (session.answer call) := by
        cases call with
        | request request =>
            exact kept.conduct_leads session [request] fun text _ => fits _
        | place kind location =>
            cases came : session.placeBreakpoint kind location with
            | ok placed =>
                have reached : session.answer (.place kind location) = placed := by
                  simp only [Session.answer, came]
                rw [reached]
                exact
                  leads_of_does (.place came) (allowed kind location List.mem_cons_self)
                    fun _ _ _ => fits _
            | error error =>
                have unchanged : session.answer (.place kind location) = session := by
                  simp only [Session.answer, came]
                rw [unchanged]
                exact leads_refl session
        | remove address? =>
            exact kept.leads_of_basic (.remove session address?) rfl
        | removeTemporary =>
            exact kept.leads_of_basic (.removeTemporary session) rfl
      exact answered.trans later

/--
Whatever operators and hosts do comes down to deeds, and after any deeds an
address is watched as often as at first, once for every entry that waits there
and once for every leak. Nothing leaks unless a host places a temporary
breakpoint that waits for an access: then watches and entries are in balance.
-/
theorem watches_balance_but_for_leaks
    (config : Config)
    (machine : Machine) :
    (∀ calls,
      ∃ moments,
        Chronicle (.fresh config machine) moments ((Session.fresh config machine).serve calls)) ∧
      (∀ moments session,
        Chronicle (.fresh config machine) moments session →
          ∀ access address,
            session.machine.memory.watchCount access address =
              machine.memory.watchCount access address +
                session.monitor.sentry.breakpoints.waiting access address +
                moments.countP (·.leaks access address)) ∧
      ∀ calls,
        (∀ kind location,
          HostCall.place kind location ∈ calls → location.isTemporary → kind = .exec) →
        ∀ access address,
          ((Session.fresh config machine).serve calls).machine.memory.watchCount access address =
            machine.memory.watchCount access address +
              ((Session.fresh config machine).serve calls).monitor.sentry.breakpoints.waiting
                access address := by
  have balanced := Session.fresh_balanced config machine
  refine ⟨?_, ?_, ?_⟩
  · intro calls
    have leads :=
      Licence.anything_isKept.serve_leads (fun _ => trivial) (.fresh config machine) calls
        fun _ _ _ => trivial
    obtain ⟨-, moments, chronicle, -⟩ := leads (.anything fun _ => trivial)
    exact ⟨moments, chronicle⟩
  · intro moments session chronicle access address
    have counted := (chronicle.balanced balanced).count access address
    rwa [Nat.zero_add] at counted
  · intro calls leakless access address
    have leads :=
      Licence.leakless_isKept.serve_leads (fun _ => trivial) (.fresh config machine) calls leakless
    obtain ⟨-, moments, chronicle, allowed⟩ := leads (.anything fun _ => trivial)
    have permanent :
        (Session.fresh config machine).monitor.sentry.breakpoints.DataPermanent := by
      intro access address
      rw [Session.fresh_breakpoints]
      cases access <;> rfl
    have counted := (chronicle.balanced balanced).count access address
    have nothing :=
      chronicle.leaks_nothing allowed balanced.idle balanced.single permanent access address
    rwa [nothing] at counted

/-- One entry for reads is one watch, and a temporary one that is placed twice is one more. -/
theorem entry_and_leak_are_two_watches :
    (let session :=
      (Session.fresh .default .initial).serve
        [.place .exec (.temporary 0x200), .place .read (.ofAddress 0x100), .request .step]
    session.machine.memory.watchCount .read 0x100 = 0 + 1) ∧
      ∃ moments session,
        Chronicle (.fresh .default .initial) moments session ∧
          session.machine.memory.watchCount .read 0x100 = 0 + 1 + 1 := by
  have balance := watches_balance_but_for_leaks .default .initial
  refine ⟨?_, ?_⟩
  · intro session
    have leakless :
        ∀ kind location,
          HostCall.place kind location ∈
              [.place .exec (.temporary 0x200), .place .read (.ofAddress 0x100),
                .request .step] →
            location.isTemporary → kind = .exec := by
      intro kind location member
      simp only [List.mem_cons, HostCall.place.injEq, List.not_mem_nil, or_false,
        reduceCtorEq] at member
      rcases member with ⟨rfl, rfl⟩ | ⟨rfl, rfl⟩
      · exact fun _ => rfl
      · exact nofun
    have waits : session.monitor.sentry.breakpoints.waiting .read 0x100 = 1 := by
      decide +kernel
    have balanced := balance.2.2 _ leakless .read 0x100
    rw [waits] at balanced
    exact balanced
  · have twice :
        Chronicle (.fresh .default .initial)
          [⟨.fresh .default .initial, .place .read (.temporary 0x100)⟩,
            ⟨(Session.fresh .default .initial).serve [.place .read (.temporary 0x100)],
              .place .read (.temporary 0x100)⟩]
          ((Session.fresh .default .initial).serve
            [.place .read (.temporary 0x100), .place .read (.temporary 0x100)]) :=
      .cons (.place rfl) (.single (.place rfl))
    refine ⟨_, _, twice, ?_⟩
    exact (balance.2.1 _ _ twice .read 0x100).trans (by decide +kernel)

/-- A temporary breakpoint placed twice leaves its address watched when all are removed. -/
theorem watch_outlives_removed_entries :
    let session :=
      (Session.fresh .default .initial).serve
        [.place .read (.temporary 0x100), .place .read (.temporary 0x100), .remove none]
    session.monitor.sentry.breakpoints.waiting .read 0x100 = 0 ∧
      session.machine.memory.watchCount .read 0x100 = 1 := by
  decide +kernel

/-- A step that ends at a permanent breakpoint leaves the temporary one beside it watched. -/
example :
    let session :=
      (Session.fresh .default .initial).serve
        [.request (.line "e 0 3A 0 1"), .place .read (.ofAddress 0x100),
          .place .read (.temporary 0x100), .request .step, .remove none]
    session.monitor.sentry.breakpoints.waiting .read 0x100 = 0 ∧
      session.machine.memory.isWatched 0x100 .read := by
  decide +kernel

end Monitor8080

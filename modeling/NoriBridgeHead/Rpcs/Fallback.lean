import NoriBridgeHead.Foundation.Session
import NoriBridgeHead.Program.Consensus

open Foundation Foundation.Outcome

namespace NoriModel

/-- The errors of the host. A nested error is the one that the text of the outer one quotes. -/
inductive HostError where
  | program (error : ProgramError)
  | blockingTaskPanicked (message : String)
  | providerTimedOut (seconds : Nat)
  | principalFailedNoBackups
  | allBackupsFailed (last : HostError)
  | noProvidersAvailable
  | allMultiplexedFailed (last : HostError)
  | executionRpc (reason : String)
  | executionRpcReadingStorage (reason : String)
  | queueHeadExceedsU64
  | cursorAheadOfHead (cursor head : UInt64)
  | queueProofMissing (key : B256)
  | targetProofMissing (key : B256)
  | neitherPresentNorAbsent (address : Address) (reason : String)
  | expectedWordProofs
  | fetchBlock (slot : UInt64) (reason : String)
  | bootstrapFailed (reason : String)
  | fetchFinalityUpdate (reason : String)
  | fetchUpdates (reason : String)
  | missingFirstUpdate
  | verifyUpdateFailed (reason : String)
  | outputNotGreater (outputSlot inputSlot : UInt64)
  | nonCheckpointOutput (outputSlot : UInt64)
  | nextSyncCommitteeZero
  | cannotBootstrapOutput (outputSlot : UInt64) (error : HostError)
  | inputExecutionHeader

/-- Which futures time out, and in which order those that run together complete. -/
structure Schedule where
  timedOut : Nat → Bool
  completion : Nat → List Nat
  complete : ∀ count, (completion count).Perm (List.range count)

section Rpcs

variable {P R : Type}

def timeout (schedule : Schedule) (position seconds : Nat) (future : Outcome HostError R) : Outcome HostError R :=
  if schedule.timedOut position then fail (.providerTimedOut seconds) else future

/-- Over the futures in the order in which they complete: the first success, or else the last failure. A
    panic unwinds through the task that polls the futures. -/
def selectOk : List (Outcome HostError R) → Outcome HostError R
  | [] => panicked "iterator provided to select_ok was empty"
  | [last] => last
  | .error (.error _) :: rest => selectOk rest
  | first :: _ => first

def arrivals (schedule : Schedule) (futures : List (Outcome HostError R)) : List (Outcome HostError R) :=
  (schedule.completion futures.length).filterMap fun position => futures[position]?

def together (schedule : Schedule) (first seconds : Nat) (f : P → Outcome HostError R) (providers : List P) :
    Outcome HostError R :=
  selectOk (arrivals schedule
    ((providers.zipIdx first).map fun (provider, position) => timeout schedule position seconds (f provider)))

def queryWithFallback (schedule : Schedule) (principalProvider : P) (backupProviders : List P)
    (f : P → Outcome HostError R) (seconds : Nat) : Outcome HostError R :=
  match timeout schedule 0 seconds (f principalProvider) with
  | .ok result => .ok result
  | .error (.panic message) => panicked message
  | .error (.error _) =>
    if backupProviders.isEmpty then fail .principalFailedNoBackups
    else mapErr .allBackupsFailed (together schedule 1 seconds f backupProviders)

def multiplex (schedule : Schedule) (f : P → Outcome HostError R) (providers : List P) (seconds : Nat) :
    Outcome HostError R :=
  if providers.isEmpty then fail .noProvidersAvailable
  else mapErr .allMultiplexedFailed (together schedule 0 seconds f providers)

/-- One of the providers, whose futures are numbered from the given position on, succeeds in time. -/
def AnswersInTime (schedule : Schedule) (first : Nat) (f : P → Outcome HostError R) (providers : List P) : Prop :=
  ∃ index provider result, providers[index]? = some provider ∧ schedule.timedOut (first + index) = false ∧
    f provider = .ok result

/-- The result of `spawn_blocking`, in which a panic is an error of the join. -/
def spawnBlocking (outcome : Outcome ProgramError R) : Outcome HostError R :=
  match outcome with
  | .ok result => .ok result
  | .error (.error error) => fail (.program error)
  | .error (.panic message) => fail (.blockingTaskPanicked message)

end Rpcs

end NoriModel

namespace NoriProof

open NoriModel

variable {P R : Type} {schedule : Schedule} {f : P → Outcome HostError R} {result : R}

theorem timeout_ok {position seconds : Nat} {future : Outcome HostError R}
    (returned : timeout schedule position seconds future = .ok result) : future = .ok result := by
  unfold timeout at returned
  split at returned
  · cases returned
  · exact returned

theorem selectOk_mem {futures : List (Outcome HostError R)} (returned : selectOk futures = .ok result) :
    .ok result ∈ futures := by
  fun_induction selectOk futures with
  | case1 => cases returned
  | case2 last =>
    rw [returned]
    exact List.mem_singleton_self _
  | case3 error rest _ ih => exact List.mem_cons_of_mem _ (ih returned)
  | case4 first rest =>
    rw [returned]
    exact List.mem_cons_self ..

theorem together_ok {first seconds : Nat} {providers : List P}
    (returned : together schedule first seconds f providers = .ok result) :
    ∃ provider ∈ providers, f provider = .ok result := by
  have member := selectOk_mem returned
  rcases List.mem_filterMap.mp member with ⟨position, _, found⟩
  have future := List.mem_of_getElem? found
  rcases List.mem_map.mp future with ⟨⟨provider, index⟩, numbered, ran⟩
  exact ⟨provider, List.fst_mem_of_mem_zipIdx numbered, timeout_ok ran⟩

theorem queryWithFallback_ok {principal : P} {backups : List P} {seconds : Nat}
    (returned : queryWithFallback schedule principal backups f seconds = .ok result) :
    ∃ provider ∈ principal :: backups, f provider = .ok result := by
  unfold queryWithFallback at returned
  split at returned
  · rename_i value ran
    cases returned
    exact ⟨principal, List.mem_cons_self .., timeout_ok ran⟩
  · cases returned
  · split at returned
    · cases returned
    · rcases together_ok (mapErr_ok_iff.mp returned) with ⟨provider, member, ran⟩
      exact ⟨provider, List.mem_cons_of_mem principal member, ran⟩

theorem multiplex_ok {providers : List P} {seconds : Nat}
    (returned : multiplex schedule f providers seconds = .ok result) :
    ∃ provider ∈ providers, f provider = .ok result := by
  unfold multiplex at returned
  split at returned
  · cases returned
  · exact together_ok (mapErr_ok_iff.mp returned)

section Survival

variable {P R : Type} {schedule : Schedule} {f : P → Outcome HostError R}

theorem timeout_fails {position seconds : Nat} {future : Outcome HostError R}
    (fails : FailsOnly Failure.IsError future) :
    FailsOnly Failure.IsError (timeout schedule position seconds future) := by
  unfold timeout
  split
  · apply FailsOnly.mk
    intro failure failed
    cases failed
    trivial
  · exact fails

theorem mapErr_fails {ε ε' α : Type} {change : ε → ε'} {outcome : Outcome ε α}
    (fails : FailsOnly Failure.IsError outcome) :
    FailsOnly Failure.IsError (mapErr change outcome) := by
  apply FailsOnly.mk
  intro failure failed
  cases outcome with
  | ok value => cases failed
  | error earlier =>
    cases earlier with
    | error error =>
      cases failed
      trivial
    | panic message => exact (fails.only _ rfl).elim

theorem selectOk_fails {futures : List (Outcome HostError R)} (some : futures ≠ [])
    (each : ∀ future ∈ futures, FailsOnly Failure.IsError future) : FailsOnly Failure.IsError (selectOk futures) := by
  fun_induction selectOk futures with
  | case1 => exact absurd rfl some
  | case2 last => exact each last (List.mem_singleton_self _)
  | case3 error rest more ih => exact ih more fun future member => each future (List.mem_cons_of_mem _ member)
  | case4 first rest => exact each first (List.mem_cons_self ..)

theorem arrivals_ne_nil {futures : List (Outcome HostError R)} (some : futures ≠ []) :
    arrivals schedule futures ≠ [] := by
  intro none
  have position : 0 ∈ schedule.completion futures.length := by
    rw [(schedule.complete futures.length).mem_iff, List.mem_range]
    exact List.length_pos_of_ne_nil some
  have missing := List.filterMap_eq_nil_iff.mp none 0 position
  rw [List.getElem?_eq_none_iff] at missing
  exact some (List.eq_nil_of_length_eq_zero (by omega))

theorem together_fails {first seconds : Nat} {providers : List P} (some : providers ≠ [])
    (each : ∀ provider ∈ providers, FailsOnly Failure.IsError (f provider)) :
    FailsOnly Failure.IsError (together schedule first seconds f providers) := by
  apply selectOk_fails
  · apply arrivals_ne_nil
    simpa using some
  · intro future member
    rcases List.mem_filterMap.mp member with ⟨position, _, found⟩
    rcases List.mem_map.mp (List.mem_of_getElem? found) with ⟨⟨provider, index⟩, numbered, rfl⟩
    exact timeout_fails (each provider (List.fst_mem_of_mem_zipIdx numbered))

/-- A provider that is not answered well, but does not panic either, is passed over. -/
theorem queryWithFallback_backups {principal : P} {backups : List P} {seconds : Nat}
    (fails : FailsOnly Failure.IsError (f principal)) (some : backups ≠ [])
    (refused : ∀ result, timeout schedule 0 seconds (f principal) ≠ .ok result) :
    queryWithFallback schedule principal backups f seconds =
      mapErr .allBackupsFailed (together schedule 1 seconds f backups) := by
  have handled : FailsOnly Failure.IsError (timeout schedule 0 seconds (f principal)) := timeout_fails fails
  unfold queryWithFallback
  cases answered : timeout schedule 0 seconds (f principal) with
  | ok result => exact absurd answered (refused result)
  | error failure =>
    cases failure with
    | panic message => exact (handled.only _ answered).elim
    | error error =>
      have notEmpty : backups.isEmpty = false := by simpa using some
      simp only [notEmpty, Bool.false_eq_true, ↓reduceIte]

theorem queryWithFallback_fails {principal : P} {backups : List P} {seconds : Nat}
    (each : ∀ provider ∈ principal :: backups, FailsOnly Failure.IsError (f provider)) :
    FailsOnly Failure.IsError (queryWithFallback schedule principal backups f seconds) := by
  have handled : FailsOnly Failure.IsError (timeout schedule 0 seconds (f principal)) :=
    timeout_fails (each principal (List.mem_cons_self ..))
  unfold queryWithFallback
  cases answered : timeout schedule 0 seconds (f principal) with
  | ok result => exact .of_ok rfl
  | error failure =>
    cases failure with
    | panic message => exact (handled.only _ answered).elim
    | error error =>
      by_cases none : backups.isEmpty
      · simp only [none, ↓reduceIte]
        apply FailsOnly.mk
        intro failure failed
        cases failed
        trivial
      · simp only [none, Bool.false_eq_true, ↓reduceIte]
        have some : backups ≠ [] := by simpa using none
        exact mapErr_fails (together_fails some fun backup member => each backup (List.mem_cons_of_mem _ member))

/-- Where none panics, one success is enough. -/
theorem selectOk_returns {result : R} {futures : List (Outcome HostError R)}
    (each : ∀ future ∈ futures, FailsOnly Failure.IsError future) (succeeds : .ok result ∈ futures) :
    ∃ chosen, selectOk futures = .ok chosen := by
  fun_induction selectOk futures with
  | case1 => cases succeeds
  | case2 last => exact ⟨result, (List.mem_singleton.mp succeeds).symm⟩
  | case3 error rest _ ih =>
    apply ih fun future member => each future (List.mem_cons_of_mem _ member)
    rcases List.mem_cons.mp succeeds with same | later
    · cases same
    · exact later
  | case4 first rest _ handled =>
    cases first with
    | ok chosen => exact ⟨chosen, rfl⟩
    | error failure =>
      cases failure with
      | error error => exact absurd rfl (handled error)
      | panic message => exact ((each _ (List.mem_cons_self ..)).only _ rfl).elim

theorem together_returns {first : Nat} (seconds : Nat) {providers : List P}
    (each : ∀ provider ∈ providers, FailsOnly Failure.IsError (f provider))
    (answers : AnswersInTime schedule first f providers) :
    ∃ chosen, together schedule first seconds f providers = .ok chosen := by
  rcases answers with ⟨index, provider, result, found, inTime, ran⟩
  have future : ((providers.zipIdx first).map fun (provider, position) =>
      timeout schedule position seconds (f provider))[index]? = some (.ok result) := by
    rw [List.getElem?_map, List.getElem?_zipIdx, found]
    simp [timeout, inTime, ran]
  apply selectOk_returns
  · intro future member
    rcases List.mem_filterMap.mp member with ⟨position, _, found⟩
    rcases List.mem_map.mp (List.mem_of_getElem? found) with ⟨⟨provider, index⟩, numbered, rfl⟩
    exact timeout_fails (each provider (List.fst_mem_of_mem_zipIdx numbered))
  · apply List.mem_filterMap.mpr
    refine ⟨index, ?_, future⟩
    rw [(schedule.complete _).mem_iff, List.mem_range]
    exact (List.getElem?_eq_some_iff.mp future).1

theorem multiplex_returns (seconds : Nat) {providers : List P}
    (each : ∀ provider ∈ providers, FailsOnly Failure.IsError (f provider))
    (answers : AnswersInTime schedule 0 f providers) :
    ∃ chosen, multiplex schedule f providers seconds = .ok chosen := by
  have some : providers.isEmpty = false := by
    rcases answers with ⟨index, provider, _, found, _⟩
    exact List.isEmpty_eq_false_iff.mpr (List.ne_nil_of_mem (List.mem_of_getElem? found))
  rcases together_returns seconds each answers with ⟨chosen, returned⟩
  refine ⟨chosen, ?_⟩
  simp only [multiplex, some, Bool.false_eq_true, ↓reduceIte]
  exact mapErr_ok_iff.mpr returned

theorem queryWithFallback_returns {principal : P} {backups : List P} (seconds : Nat)
    (each : ∀ provider ∈ principal :: backups, FailsOnly Failure.IsError (f provider))
    (answers : AnswersInTime schedule 0 f (principal :: backups)) :
    ∃ chosen, queryWithFallback schedule principal backups f seconds = .ok chosen := by
  have principalFails := each principal (List.mem_cons_self ..)
  by_cases answered : ∃ result, timeout schedule 0 seconds (f principal) = .ok result
  · rcases answered with ⟨result, ran⟩
    exact ⟨result, by simp only [queryWithFallback, ran]⟩
  · rcases answers with ⟨index, provider, result, found, inTime, ran⟩
    cases index with
    | zero =>
      cases found
      exact absurd ⟨result, by simpa [timeout, show schedule.timedOut 0 = false from inTime] using ran⟩ answered
    | succ index =>
      have backup : AnswersInTime schedule 1 f backups :=
        ⟨index, provider, result, found, by rwa [Nat.zero_add, Nat.add_comm] at inTime, ran⟩
      have some : backups ≠ [] := List.ne_nil_of_mem (List.mem_of_getElem? found)
      rcases together_returns seconds (fun backup member => each backup (List.mem_cons_of_mem _ member)) backup with
        ⟨chosen, returned⟩
      refine ⟨chosen, ?_⟩
      rw [queryWithFallback_backups principalFails some (fun result ran => answered ⟨result, ran⟩)]
      exact mapErr_ok_iff.mpr returned

theorem spawnBlocking_fails (outcome : Outcome ProgramError R) : FailsOnly Failure.IsError (spawnBlocking outcome) := by
  apply FailsOnly.mk
  intro failure failed
  cases outcome with
  | ok value => cases failed
  | error earlier =>
    cases earlier <;>
    · cases failed
      trivial

end Survival

theorem spawnBlocking_ok_iff {outcome : Outcome ProgramError R} :
    spawnBlocking outcome = .ok result ↔ outcome = .ok result := by
  cases outcome with
  | ok value => simp [spawnBlocking]
  | error failure => cases failure <;> simp [spawnBlocking]

end NoriProof

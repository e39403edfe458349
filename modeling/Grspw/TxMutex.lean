import Grspw.Lib.Latch
import Grspw.Touches

/-!
# The transmit mutex

Bus reads lock `txthread_mutex`, and the wait of a transmit call unlocks it and
locks it again.  Nothing on the way of a bus write unlocks it a second time.  This
file adds the mutex to the plugin and says exactly when a bus read blocks.
-/

namespace Grspw

/-- The call is in its wait: not signalled yet, or signalled and not yet running
again. -/
def Call.inWait : Call → Bool
  | .waiting _ => true
  | .woken _ => true
  | _ => false

/-- The plugin with its mutex. -/
structure LockedPlugin where
  plugin : Plugin
  /-- Whether `txthread_mutex` is locked. -/
  txthreadMutex : Bool

namespace LockedPlugin

/-- A woken call comes back from `pthread_cond_wait` only with the mutex. -/
def blocked (locked : LockedPlugin) : Action → Bool
  | .resume _ => locked.txthreadMutex
  | _ => false

/-- What an action does to the mutex.  `pthread_cond_wait` unlocks it to wait,
although the call has not locked it, and locks it to come back. -/
def mutexEvent (locked : LockedPlugin) : Action → Latch.Event
  | .txwaitack grspwId =>
      match locked.plugin.calls grspwId with
      | .sent _ => .clear
      | _ => .quiet
  | .resume grspwId =>
      match locked.plugin.calls grspwId with
      | .woken _ => if locked.txthreadMutex then .quiet else .set
      | _ => .quiet
  | _ => .quiet

/-- One action; a blocked one changes nothing. -/
def step
    (layout : Layout)
    (locked : LockedPlugin)
    (action : Action) : Except Fault LockedPlugin :=
  if locked.blocked action then .ok locked
  else
    match locked.plugin.step layout action with
    | .ok plugin =>
        .ok ⟨plugin, (locked.mutexEvent action).apply locked.txthreadMutex⟩
    | .error fault => .error fault

/-- The plugin as its initialisation leaves it. -/
def init (ram : Memory Uint8) (recvAtt : RecvAtt) : LockedPlugin :=
  ⟨Plugin.init ram recvAtt, false⟩

section Steps

variable
  {layout : Layout}
  {locked after : LockedPlugin}
  {action : Action}

/-- A step is one of the plugin, or a call stays blocked. -/
theorem step_cases (moves : locked.step layout action = .ok after) :
    (locked.blocked action = true ∧ after = locked) ∨
    (locked.blocked action = false ∧
      locked.plugin.step layout action = .ok after.plugin ∧
      after.txthreadMutex =
        (locked.mutexEvent action).apply locked.txthreadMutex) := by
  unfold step at moves
  split_ifs at moves with isBlocked
  · cases moves
    exact Or.inl ⟨isBlocked, rfl⟩
  · cases result : locked.plugin.step layout action with
    | error fault =>
        rw [result] at moves
        cases moves
    | ok plugin =>
        rw [result] at moves
        cases moves
        exact Or.inr ⟨Bool.not_eq_true _ ▸ isBlocked, rfl, rfl⟩

/-- An action that is not blocked goes through where the plugin's does. -/
theorem step_of_ok
    {plugin : Plugin}
    (free : locked.blocked action = false)
    (moves : locked.plugin.step layout action = .ok plugin) :
    locked.step layout action =
      .ok ⟨plugin, (locked.mutexEvent action).apply locked.txthreadMutex⟩ := by
  simp only [step, free, moves, Bool.false_eq_true, if_false]

/-- **The mutex only delays.**  What the guarded steps of the plugin preserve
holds at the end of every guarded run with the mutex. -/
theorem run_invariant
    {guard : Plugin → Action → Prop}
    {invariant : Plugin → Prop}
    (preserved : ∀ plugin action next, invariant plugin → guard plugin action →
      plugin.step layout action = .ok next → invariant next)
    {last : LockedPlugin}
    {actions : List Action}
    (holds : invariant locked.plugin)
    (guarded : Machine.Guarded (step layout) (fun locked => guard locked.plugin)
      locked actions)
    (reaches : Machine.run (step layout) locked actions = .ok last) :
    invariant last.plugin := by
  refine @Machine.run_invariant _ _ _ _ _
    (fun locked => invariant locked.plugin) ?_ _ _ _ holds guarded reaches
  intro locked action next holds guards moves
  obtain ⟨_, rfl⟩ | ⟨_, moves, _⟩ := step_cases moves
  · exact holds
  · exact preserved _ _ _ holds guards moves

/-- Every step moves the mutex as its event says. -/
theorem txthreadMutex_of_step (moves : locked.step layout action = .ok after) :
    after.txthreadMutex =
      (locked.mutexEvent action).apply locked.txthreadMutex := by
  obtain ⟨isBlocked, rfl⟩ | ⟨_, _, mutex⟩ := step_cases moves
  · cases action with
    | resume grspwId =>
        have isLocked : after.txthreadMutex = true := isBlocked
        simp only [mutexEvent, isLocked, if_true]
        split <;> rfl
    | _ => cases isBlocked
  · exact mutex

/-- How a step moves the call on a core. -/
theorem callMoved_of_step
    (moves : locked.step layout action = .ok after)
    (grspwId : GrspwId) :
    Plugin.CallMoved grspwId action (locked.plugin.calls grspwId)
      (after.plugin.calls grspwId) := by
  obtain ⟨_, rfl⟩ | ⟨_, moves, _⟩ := step_cases moves
  · exact .kept _ _
  · exact Plugin.callMoved_of_step moves grspwId

/-- The mutex is locked, or a call in its wait will lock it. -/
def Claimed (locked : LockedPlugin) : Prop :=
  locked.txthreadMutex = true ∨
    ∃ grspwId, (locked.plugin.calls grspwId).inWait = true

/-- A call that begins its wait is in it, and unlocks the mutex. -/
theorem inWait_of_clear
    (moves : locked.step layout action = .ok after)
    (unlocks : locked.mutexEvent action = .clear) :
    ∃ grspwId, (after.plugin.calls grspwId).inWait = true := by
  cases action with
  | txwaitack grspwId =>
      simp only [mutexEvent] at unlocks
      cases phase : locked.plugin.calls grspwId with
      | sent frame =>
          obtain ⟨isBlocked, _⟩ | ⟨_, moves, _⟩ := step_cases moves
          · cases isBlocked
          · rw [Plugin.step_txwaitack phase] at moves
            have waiting : after.plugin.calls grspwId = .waiting frame := by
              rw [← Except.ok.inj moves]
              exact Function.update_self _ _ _
            exact ⟨grspwId, congrArg Call.inWait waiting⟩
      | _ =>
          rw [phase] at unlocks
          cases unlocks
  | resume grspwId =>
      simp only [mutexEvent] at unlocks
      split at unlocks
      · split_ifs at unlocks
      · cases unlocks
  | _ => cases unlocks

/-- A call stays in its wait until it locks the mutex. -/
theorem inWait_of_step
    (moves : locked.step layout action = .ok after)
    {grspwId : GrspwId}
    (waits : (locked.plugin.calls grspwId).inWait = true)
    (keeps : locked.mutexEvent action ≠ .set) :
    (after.plugin.calls grspwId).inWait = true ∨
      locked.txthreadMutex = true := by
  generalize phase : locked.plugin.calls grspwId = before at waits
  generalize phase' : after.plugin.calls grspwId = call
  have moved := callMoved_of_step moves grspwId
  rw [phase, phase'] at moved
  cases moved with
  | kept => exact Or.inl waits
  | sent frame => cases waits
  | waits frame => exact Or.inl rfl
  | signalled frame => exact Or.inl rfl
  | returned frame =>
      right
      by_contra unlocked
      exact keeps (by simp only [mutexEvent, phase, if_neg unlocked])

/-- A mutex claimed stays so: the wait that unlocks it will lock it again. -/
theorem Claimed.step
    (claimed : locked.Claimed)
    (moves : locked.step layout action = .ok after) :
    after.Claimed := by
  have mutex := txthreadMutex_of_step moves
  cases event : locked.mutexEvent action with
  | set =>
      rw [event] at mutex
      exact Or.inl mutex
  | clear => exact Or.inr (inWait_of_clear moves event)
  | quiet =>
      rw [event] at mutex
      obtain isLocked | ⟨grspwId, waits⟩ := claimed
      · exact Or.inl (mutex.trans isLocked)
      · obtain still | isLocked :=
          inWait_of_step moves waits (by rw [event]; decide)
        · exact Or.inr ⟨grspwId, still⟩
        · exact Or.inl (mutex.trans isLocked)

/-- A guest that waits for the mutex makes no transmit call. -/
def SendsNothing : Action → Prop
  | .send _ => False
  | _ => True

/-- Every call is idle and the mutex locked. -/
structure Shut (locked : LockedPlugin) : Prop where
  idle : ∀ grspwId, locked.plugin.calls grspwId = .idle
  isLocked : locked.txthreadMutex = true

/-- Without another transmit call nothing unlocks the mutex. -/
theorem Shut.step
    (shut : locked.Shut)
    (sendsNothing : SendsNothing action)
    (moves : locked.step layout action = .ok after) :
    after.Shut := by
  constructor
  · intro grspwId
    generalize phase : after.plugin.calls grspwId = call
    have moved := callMoved_of_step moves grspwId
    rw [shut.idle grspwId, phase] at moved
    cases moved with
    | kept => rfl
    | sent frame => exact sendsNothing.elim
  · have quiet : locked.mutexEvent action = .quiet := by
      cases action <;> simp only [mutexEvent, shut.idle]
    rw [txthreadMutex_of_step moves, quiet]
    exact shut.isLocked

end Steps

end LockedPlugin

end Grspw

import KeyProvisioning.Proofs.Cycle.Course

/-!
# Reconciling a pool

A pool is topped up again and again while chains are stored in it, and every attempt may be
broken off by the custodian or by the stop signal. Each pair that is made takes one off the
shortfall of pairs, and each chain that is stored takes one off the lack of valid keys and leaves
the shortfall alone. So nothing is made twice, and what one attempt leaves undone is left for the
next.
-/

namespace KeyProvisioning

/-! ## What a pool is short of -/

namespace PoolStatus

variable {status : PoolStatus} {extra : UInt32}

/-- The valid keys that a pool lacks; it may have more than enough. -/
def lack (status : PoolStatus) (extra : UInt32) : Int :=
  (status.deficit extra).target - (status.deficit extra).valid

/-- The key pairs that a pool is short of; unsigned ones count as if they were valid. -/
def shortfall (status : PoolStatus) (extra : UInt32) : Int :=
  status.lack extra - (status.deficit extra).unattested

/-- The status once so many more pairs are made. -/
def withPairs (status : PoolStatus) (count : Nat) : PoolStatus :=
  { status with total := status.total + UInt32.ofNat count }

/-- The status once a signed chain is stored for a pair that had none. -/
def withChain (status : PoolStatus) : PoolStatus :=
  { status with attested := status.attested + 1, unassigned := status.unassigned + 1 }

/-- Counts that agree with each other, with room for the pairs that are missing. -/
structure Sound (status : PoolStatus) (extra : UInt32) : Prop where
  attested_le : status.attested.toNat ≤ status.total.toNat
  unassigned_le : status.unassigned.toNat ≤ status.attested.toNat
  expiring_le : status.expiring.toNat ≤ status.attested.toNat
  fits : status.total.toNat + status.shortfall extra < UInt32.size

theorem lack_eq (status : PoolStatus) (extra : UInt32) :
    status.lack extra = extra.toNat + status.expiring.toNat - status.unassigned.toNat := by
  simp only [lack, deficit]
  omega

theorem shortfall_eq (status : PoolStatus) (extra : UInt32) :
    status.shortfall extra =
      status.lack extra - (status.total.toNat - status.attested.toNat) := rfl

theorem keysToGenerate_eq (status : PoolStatus) (extra : UInt32) :
    (status.deficit extra).keysToGenerate = clampToCount (status.shortfall extra) := by
  simp only [Deficit.keysToGenerate, shortfall, lack]
  congr 1
  omega

theorem estimate_eq (status : PoolStatus) (extra : UInt32) :
    status.estimate extra =
      if 0 < status.lack extra then
        clampToCount ((status.deficit extra).keysToGenerate.toNat +
          (status.total.toNat - status.attested.toNat))
      else 0 := rfl

/-- The pairs to generate are those that are missing, if any are. -/
theorem Sound.toNat_keysToGenerate (sound : status.Sound extra) :
    (status.deficit extra).keysToGenerate.toNat = (status.shortfall extra).toNat := by
  have hfits := sound.fits
  rw [keysToGenerate_eq, toNat_clampToCount]
  omega

/-- All pairs without a signature need one as soon as valid keys are lacking. -/
theorem Sound.toNat_estimate (sound : status.Sound extra) :
    (status.estimate extra).toNat =
      if 0 < status.lack extra then
        (status.shortfall extra).toNat + (status.total.toNat - status.attested.toNat)
      else 0 := by
  rw [estimate_eq]
  split
  · have hfits := sound.fits
    have hattested := sound.attested_le
    have hlt := status.total.toNat_lt
    have hsize : UInt32.size = 2 ^ 32 := rfl
    rw [toNat_clampToCount, sound.toNat_keysToGenerate]
    omega
  · rfl

@[simp] theorem withPairs_zero (status : PoolStatus) : status.withPairs 0 = status := by
  simp [withPairs]

theorem withPairs_withPairs (status : PoolStatus) (first second : Nat) :
    (status.withPairs first).withPairs second = status.withPairs (first + second) := by
  simp only [withPairs, UInt32.ofNat_add, UInt32.add_assoc]

@[simp] theorem lack_withPairs (count : Nat) :
    (status.withPairs count).lack extra = status.lack extra := rfl

/-- Making pairs that are missing takes them off the shortfall. -/
theorem Sound.withPairs (sound : status.Sound extra) {count : Nat}
    (hcount : count ≤ (status.shortfall extra).toNat) :
    (status.withPairs count).Sound extra ∧
      (status.withPairs count).total.toNat = status.total.toNat + count ∧
      (status.withPairs count).shortfall extra = status.shortfall extra - count := by
  have hfits := sound.fits
  have hattested := sound.attested_le
  have hlt := status.total.toNat_lt
  have hsize : UInt32.size = 2 ^ 32 := rfl
  have htotal : (status.withPairs count).total.toNat = status.total.toNat + count := by
    simp only [PoolStatus.withPairs, UInt32.toNat_add, UInt32.toNat_ofNat']
    omega
  have hshort : (status.withPairs count).shortfall extra = status.shortfall extra - count := by
    rw [shortfall_eq, shortfall_eq, htotal, lack_withPairs]
    simp only [PoolStatus.withPairs]
    omega
  refine ⟨⟨?_, sound.unassigned_le, sound.expiring_le, ?_⟩, htotal, hshort⟩
  · rw [htotal]
    exact Nat.le_trans hattested (Nat.le_add_right _ _)
  · rw [htotal, hshort]
    omega

/-- Storing a chain takes one off the lack of valid keys and leaves the shortfall alone. -/
theorem Sound.withChain (sound : status.Sound extra) (room : status.attested < status.total) :
    status.withChain.Sound extra ∧ status.withChain.shortfall extra = status.shortfall extra ∧
      status.withChain.lack extra = status.lack extra - 1 := by
  have hroom := UInt32.lt_iff_toNat_lt.mp room
  have hunassigned := sound.unassigned_le
  have hexpiring := sound.expiring_le
  have hlt := status.total.toNat_lt
  have hfits := sound.fits
  have hattested' : status.withChain.attested.toNat = status.attested.toNat + 1 := by
    simp only [PoolStatus.withChain, UInt32.toNat_add, UInt32.toNat_one]
    omega
  have hunassigned' : status.withChain.unassigned.toNat = status.unassigned.toNat + 1 := by
    simp only [PoolStatus.withChain, UInt32.toNat_add, UInt32.toNat_one]
    omega
  have hlack : status.withChain.lack extra = status.lack extra - 1 := by
    rw [lack_eq, lack_eq, hunassigned']
    simp only [PoolStatus.withChain]
    omega
  have hshort : status.withChain.shortfall extra = status.shortfall extra := by
    rw [shortfall_eq, shortfall_eq, hlack, hattested']
    simp only [PoolStatus.withChain]
    omega
  refine ⟨⟨?_, ?_, ?_, ?_⟩, hshort, hlack⟩
  · rw [hattested']
    exact hroom
  · rw [hattested', hunassigned']
    omega
  · rw [hattested']
    exact Nat.le_succ_of_le hexpiring
  · rw [hshort]
    exact hfits

end PoolStatus

/-! ## One attempt to top up a pool -/

/-- Whether an event is a key pair that was made. -/
def Event.isPair : Event → Bool
  | ⟨.generateKeyPair .., .succeeded⟩ => true
  | _ => false

/-- The custodian of these surroundings keeps a pool at a level. It reports the status of the
pool, and a pair that it makes adds one to the total; a pair that it fails to make changes
nothing. -/
structure Surroundings.KeepsPool {σ : Type} (surroundings : Surroundings σ) (level : SecurityLevel)
    (pool : σ → PoolStatus) : Prop where
  status : ∀ horizon state, ∃ state',
    surroundings.reply (.poolStatus horizon level) state = (.answered (.ok (pool state)), state') ∧
      pool state' = pool state
  made : ∀ {testMode : Bool} {state state' : σ},
    surroundings.reply (.generateKeyPair testMode level) state = (.answered (.ok ()), state') →
      pool state' = (pool state).withPairs 1
  notMade : ∀ {testMode : Bool} {state state' : σ} {reply : Reply Unit},
    surroundings.reply (.generateKeyPair testMode level) state = (reply, state') →
      reply.callEnd ≠ .succeeded → pool state' = pool state

namespace Cycle

section TopUp

variable {σ : Type} {surroundings : Surroundings σ} {level : SecurityLevel} {pool : σ → PoolStatus}
  {mayStop : Prop}

/-- Turns along the plan for making pairs make some of them, and all of them if nothing ends
them. -/
theorem exists_made (keeps : surroundings.KeepsPool level pool) {testMode : Bool} {count : Nat}
    {turns : List Turn} {halt : Option Halt} {state final : σ}
    (h : Follows mayStop
      (List.replicate count (.ok ⟨.generateKeyPair testMode level, .answered (.ok ())⟩))
      turns halt)
    (path : surroundings.Path state turns final) :
    ∃ made ≤ count, pool final = (pool state).withPairs made ∧
      (turns.map Turn.event).countP Event.isPair = made ∧ (halt = none → made = count) := by
  induction count generalizing turns state with
  | zero =>
    cases h
    cases path
    exact ⟨0, Nat.le_refl 0, by simp, rfl, fun _ => rfl⟩
  | succ count ih =>
    rw [List.replicate_succ] at h
    cases h with
    | step _ rest =>
      cases path with
      | cons replied tail =>
        obtain ⟨made, hle, hpool, hcount, hall⟩ := ih rest tail
        refine ⟨made + 1, Nat.succ_le_succ hle, ?_, ?_, fun hhalt => congrArg (· + 1) (hall hhalt)⟩
        · rw [hpool, keeps.made replied, PoolStatus.withPairs_withPairs, Nat.add_comm]
        · rw [List.map_cons, List.countP_cons_of_pos rfl, hcount]
    | @failed _ _ reply _ halt failure =>
      cases path with
      | cons replied tail =>
        cases tail
        refine ⟨0, Nat.zero_le _, ?_, ?_, by simp⟩
        · rw [PoolStatus.withPairs_zero]
          apply keeps.notMade replied
          rcases reply with (fault | answer) | _
          · simp [Reply.callEnd]
          · cases failure
          · simp [Reply.callEnd]
        · rcases reply with (fault | answer) | _
          · rfl
          · cases failure
          · rfl
    | stopped =>
      cases path
      exact ⟨0, Nat.zero_le _, by simp, rfl, by simp⟩

/-- An attempt to top up a pool has the status of the pool and then makes the pairs that are
missing. -/
theorem generateKeys_course (keeps : surroundings.KeepsPool level pool) {config : Config}
    {now : Nat} {window : UInt64} {extra : UInt32} {turns : List Turn}
    {ending : Except Halt UInt32} {state final : σ}
    (h : (generateKeys config now level window extra).Goes mayStop turns ending)
    (path : surroundings.Path state turns final) :
    ∃ counted rest,
      turns =
        ⟨.poolStatus (expirationHorizon now window) level, .answered (.ok (pool state))⟩ :: rest ∧
      pool counted = pool state ∧ surroundings.Path counted rest final ∧
      Follows mayStop (List.replicate ((pool state).deficit extra).keysToGenerate.toNat
        (.ok ⟨.generateKeyPair config.testMode level, .answered (.ok ())⟩)) rest (haltOf ending) ∧
      ∀ count, ending = .ok count → count = (pool state).estimate extra := by
  obtain ⟨settings, rfl, rfl⟩ : ∃ settings : Settings,
      settings.expiringByMillis = window ∧ settings.extraKeys = extra :=
    ⟨{ Settings.default with expiringByMillis := window, extraKeys := extra }, rfl, rfl⟩
  obtain ⟨implementation, rfl⟩ : ∃ implementation : Implementation, implementation.level = level :=
    ⟨⟨level, 0⟩, rfl⟩
  obtain ⟨status, hfollows, hcount⟩ := generateKeys_follows h
  obtain ⟨counted, hreported, hsame⟩ :=
    keeps.status (expirationHorizon now settings.expiringByMillis) state
  rw [CountedPool.topUp] at hfollows
  generalize hhalt : haltOf ending = halt at hfollows
  cases hfollows with
  | step _ tail =>
    cases path with
    | cons replied rest =>
      obtain ⟨hreply, rfl⟩ := Prod.mk.inj (hreported.symm.trans replied)
      cases hreply
      exact ⟨counted, _, rfl, hsame, rest, tail, hcount⟩
  | failed failure =>
    cases path with
    | cons replied rest =>
      obtain ⟨hreply, -⟩ := Prod.mk.inj (hreported.symm.trans replied)
      cases hreply
      cases failure
  | stopped _ guarded => cases guarded

/-- An attempt to top up a pool makes pairs that are missing. One that is answered has made all
of them and tells what needs a signature, and an attempt for which none is missing is answered at
once. -/
theorem generateKeys_effect (keeps : surroundings.KeepsPool level pool) (config : Config)
    (now : Nat) (window : UInt64) (extra : UInt32) (state : σ) :
    let run := (generateKeys config now level window extra).run.run surroundings state
    let missing := ((pool state).deficit extra).keysToGenerate.toNat
    let made := run.events.countP Event.isPair
    pool run.state = (pool state).withPairs made ∧ made ≤ missing ∧
    (∀ count, run.value = some (.ok count) →
      made = missing ∧ count = (pool state).estimate extra) ∧
    (missing = 0 → run.value = some (.ok ((pool state).estimate extra)) ∧
      ∀ testMode level, .generateKeyPair testMode level ∉ run.events.map Event.call) := by
  intro run missing made
  have hany : ∀ state, surroundings.isStopped state = true → True := fun _ _ => trivial
  obtain ⟨ending, hvalue, hgoes⟩ :=
    Procedure.exists_goes surroundings hany (generateKeys config now level window extra) state
  obtain ⟨counted, rest, hturns, hsame, hpath, hfollows, hcount⟩ :=
    generateKeys_course keeps hgoes (Dialogue.path_run surroundings _ state)
  have hevents : run.events =
      ⟨.poolStatus (expirationHorizon now window) level, .succeeded⟩ :: rest.map Turn.event := by
    calc
      run.events = _ := Dialogue.events_run surroundings _ state
      _ = _ := by rw [hturns]; rfl
  obtain ⟨pairs, hle, hpool, hpairs, hall⟩ := exists_made keeps hfollows hpath
  have hmade : made = pairs := by
    simp only [made, hevents]
    rw [List.countP_cons_of_neg (by simp [Event.isPair]), hpairs]
  rw [hmade]
  refine ⟨hsame ▸ hpool, hle, fun count hok => ?_, fun hnone => ?_⟩
  · have hending : ending = .ok count := Halt.valueOf_injective (hvalue.trans hok)
    exact ⟨hall (haltOf_eq_none_iff.mpr ⟨count, hending⟩), hcount count hending⟩
  · have hnil : rest = [] ∧ haltOf ending = none := by
      simp only [missing] at hnone
      rw [hnone] at hfollows
      generalize haltOf ending = halt at hfollows
      cases hfollows
      exact ⟨rfl, rfl⟩
    obtain ⟨count, hending⟩ := haltOf_eq_none_iff.mp hnil.2
    constructor
    · rw [← hvalue, hending, hcount count hending]
      rfl
    · simp [hevents, hnil.1]

end TopUp

/-! ## A pool over time -/

/-- What happens to a pool. -/
inductive PoolEvent
  /-- Someone attempts to top it up, with these events and this result, or nothing after a
  crash. -/
  | attempt (events : List Event) (value : Option (Except Fault UInt32))
  /-- A signed chain is stored. -/
  | store

namespace PoolEvent

/-- The calls of an attempt with their ends. -/
def events : PoolEvent → List Event
  | attempt events _ => events
  | store => []

/-- Whether a chain is stored. -/
def isStore : PoolEvent → Bool
  | attempt .. => false
  | store => true

/-- No pair is asked for. -/
def Idle : PoolEvent → Prop
  | attempt events _ => ∀ testMode level, .generateKeyPair testMode level ∉ events.map Event.call
  | store => True

end PoolEvent

/-- A step of a pool that keeps `extra` signed keys on hand. Each attempt to top it up is made in
surroundings of its own, in which the custodian may fail and the signal may be raised at any
call. -/
inductive PoolStep (extra : UInt32) : PoolStatus → PoolEvent → PoolStatus → Prop
  | attempt {σ : Type} {surroundings : Surroundings σ} {level : SecurityLevel}
    {pool : σ → PoolStatus}
      (keeps : surroundings.KeepsPool level pool) (config : Config) (now : Nat) (window : UInt64)
      (state : σ) :
      PoolStep extra (pool state)
        (.attempt ((generateKeys config now level window extra).run.run surroundings state).events
          ((generateKeys config now level window extra).run.run surroundings state).value)
        (pool ((generateKeys config now level window extra).run.run surroundings state).state)
  | store {status : PoolStatus} (room : status.attested < status.total) :
      PoolStep extra status .store status.withChain

/-- Steps of a pool one after another. -/
inductive PoolHistory (extra : UInt32) : PoolStatus → List PoolEvent → PoolStatus → Prop
  | nil (status : PoolStatus) : PoolHistory extra status [] status
  | cons {status next final : PoolStatus} {event : PoolEvent} {events : List PoolEvent}
      (step : PoolStep extra status event next) (rest : PoolHistory extra next events final) :
      PoolHistory extra status (event :: events) final

variable {extra : UInt32} {status next final : PoolStatus} {event : PoolEvent}
  {events : List PoolEvent}

/-- What a step does to the counts of a sound pool. -/
theorem PoolStep.effect (h : PoolStep extra status event next) (sound : status.Sound extra) :
    next.Sound extra ∧ event.events.countP Event.isPair ≤ (status.shortfall extra).toNat ∧
      next.shortfall extra = status.shortfall extra - event.events.countP Event.isPair ∧
      next.lack extra = status.lack extra - if event.isStore then 1 else 0 := by
  cases h with
  | attempt keeps config now window state =>
    obtain ⟨hpool, hle, -, -⟩ := generateKeys_effect keeps config now window extra state
    rw [sound.toNat_keysToGenerate] at hle
    obtain ⟨hsound, -, hshort⟩ := sound.withPairs hle
    rw [hpool]
    exact ⟨hsound, hle, hshort, by simp [PoolEvent.isStore]⟩
  | store room =>
    obtain ⟨hsound, hshort, hlack⟩ := sound.withChain room
    exact ⟨hsound, Nat.zero_le _, by simp [hshort, PoolEvent.events], hlack⟩

/-- After an answer no pair is missing, and as many keys need a signature as were answered if
valid ones are lacking. -/
theorem PoolStep.answered {calls : List Event} {count : UInt32}
    (h : PoolStep extra status (.attempt calls (some (.ok count))) next)
    (sound : status.Sound extra) :
    next.shortfall extra ≤ 0 ∧ next.lack extra ≤ count.toNat := by
  generalize hevent : PoolEvent.attempt calls (some (.ok count)) = event at h
  cases h with
  | @attempt _ _ _ pool keeps config now window state =>
    obtain ⟨rfl, hvalue⟩ := PoolEvent.attempt.inj hevent
    obtain ⟨hpool, -, hanswer, -⟩ := generateKeys_effect keeps config now window extra state
    obtain ⟨hmade, rfl⟩ := hanswer count hvalue.symm
    rw [sound.toNat_keysToGenerate] at hmade
    obtain ⟨-, -, hshort⟩ := sound.withPairs (Nat.le_of_eq hmade)
    have hattested := sound.attested_le
    have hstatus := PoolStatus.shortfall_eq (pool state) extra
    rw [hpool, hshort, PoolStatus.lack_withPairs, hmade, sound.toNat_estimate]
    constructor
    · omega
    · split <;> omega
  | store => cases hevent

/-- A pool that is short of no pair is not given any, and an attempt to top it up is answered. -/
theorem PoolStep.idle (h : PoolStep extra status event next) (sound : status.Sound extra)
    (hshort : status.shortfall extra ≤ 0) :
    event.Idle ∧ ∀ calls value, event = .attempt calls value → status.lack extra ≤ 0 →
      value = some (.ok 0) := by
  cases h with
  | @attempt _ _ _ pool keeps config now window state =>
    obtain ⟨-, -, -, hidle⟩ := generateKeys_effect keeps config now window extra state
    rw [sound.toNat_keysToGenerate] at hidle
    obtain ⟨hvalue, hnone⟩ := hidle (by omega)
    refine ⟨hnone, fun calls value hevent hlack => ?_⟩
    obtain ⟨-, rfl⟩ := PoolEvent.attempt.inj hevent
    have hzero : ((pool state).estimate extra).toNat = 0 := by
      rw [sound.toNat_estimate, if_neg (by omega)]
    rw [hvalue, UInt32.toNat_inj.mp (hzero.trans UInt32.toNat_zero.symm)]
  | store => exact ⟨trivial, by simp⟩

namespace PoolHistory

theorem of_append {first rest : List PoolEvent}
    (h : PoolHistory extra status (first ++ rest) final) :
    ∃ between, PoolHistory extra status first between ∧ PoolHistory extra between rest final := by
  induction first generalizing status with
  | nil => exact ⟨status, .nil status, h⟩
  | cons event first ih =>
    cases h with
    | cons step tail =>
      obtain ⟨between, hfirst, hrest⟩ := ih tail
      exact ⟨between, .cons step hfirst, hrest⟩

/-- What a history does to the counts of a sound pool: the pairs made come off the shortfall,
which they never exceed, and the chains stored come off the lack of valid keys. -/
theorem effect (h : PoolHistory extra status events final) (sound : status.Sound extra) :
    let made := (events.flatMap PoolEvent.events).countP Event.isPair
    final.Sound extra ∧ made ≤ (status.shortfall extra).toNat ∧
      final.shortfall extra = status.shortfall extra - made ∧
      final.lack extra = status.lack extra - events.countP PoolEvent.isStore := by
  induction h with
  | nil => exact ⟨sound, Nat.zero_le _, by simp, by simp⟩
  | @cons _ _ _ event _ step _ ih =>
    obtain ⟨hnext, hle, hshort, hlack⟩ := step.effect sound
    obtain ⟨hfinal, hrestLe, hrestShort, hrestLack⟩ := ih hnext
    simp only [List.flatMap_cons, List.countP_append, List.countP_cons]
    refine ⟨hfinal, ?_, ?_, ?_⟩
    · omega
    · omega
    · by_cases hstore : event.isStore = true
      · rw [if_pos hstore] at hlack ⊢
        omega
      · rw [if_neg hstore] at hlack ⊢
        omega

/-- A pool that is short of no pair is not given any later on. -/
theorem idle (h : PoolHistory extra status events final) (sound : status.Sound extra)
    (hshort : status.shortfall extra ≤ 0) : ∀ event ∈ events, event.Idle := by
  intro event hevent
  obtain ⟨first, rest, rfl⟩ := List.append_of_mem hevent
  obtain ⟨between, hfirst, hrest⟩ := h.of_append
  obtain ⟨hsound, -, hbetween, -⟩ := hfirst.effect sound
  cases hrest with
  | cons step _ => exact (step.idle hsound (by omega)).1

end PoolHistory

/-- Reconciling a pool, with attempts that are broken off anywhere and chains stored at any time.
Over the whole history no more pairs are made than were missing at its beginning. Once an attempt
is answered no later one asks for a pair, and once as many chains are stored as it answered every
later one answers that nothing needs a signature. -/
theorem reconcile {first : PoolStatus} (h : PoolHistory extra first events final)
    (sound : first.Sound extra) :
    (events.flatMap PoolEvent.events).countP Event.isPair ≤
      (first.deficit extra).keysToGenerate.toNat ∧
    ∀ past calls count later, events = past ++ .attempt calls (some (.ok count)) :: later →
      (∀ event ∈ later, event.Idle) ∧
      ∀ between calls value rest, later = between ++ .attempt calls value :: rest →
        count.toNat ≤ between.countP PoolEvent.isStore → value = some (.ok 0) := by
  constructor
  · rw [sound.toNat_keysToGenerate]
    exact (h.effect sound).2.1
  · rintro past calls count later rfl
    obtain ⟨before, hpast, hrest⟩ := h.of_append
    have hbefore := (hpast.effect sound).1
    cases hrest with
    | cons step hlater =>
      have hafter := (step.effect hbefore).1
      obtain ⟨hshort, hlack⟩ := step.answered hbefore
      refine ⟨hlater.idle hafter hshort, ?_⟩
      rintro between calls value rest rfl hstored
      obtain ⟨status, hbetween, hlast⟩ := hlater.of_append
      obtain ⟨hstatus, -, hstatusShort, hstatusLack⟩ := hbetween.effect hafter
      cases hlast with
      | cons attempt _ =>
        exact (attempt.idle hstatus (by omega)).2 calls value rfl (by omega)

/-- A custodian that keeps a pool and makes only so many more pairs. -/
def limited : Surroundings (PoolStatus × Nat) where
  reply
    | .poolStatus .., (status, left) => (.answered (.ok status), status, left)
    | .generateKeyPair .., (status, left + 1) => (.answered (.ok ()), status.withPairs 1, left)
    | .generateKeyPair .., (status, 0) =>
      (.answered (.error (CustodianFault.generateKeyPair : Fault)), status, 0)
    | _, state => (.crashed, state)
  isStopped _ := false

theorem keepsPool_limited (level : SecurityLevel) : limited.KeepsPool level Prod.fst where
  status _ state := ⟨state, rfl, rfl⟩
  made := by
    rintro testMode ⟨status, _ | left⟩ state' h
    · cases h
    · cases h
      rfl
  notMade := by
    rintro testMode ⟨status, _ | left⟩ state' reply h hfailed
    · cases h
      rfl
    · cases h
      exact absurd rfl hfailed

/-- An attempt to keep four signed keys at hand. -/
def attemptFour (state : PoolStatus × Nat) : Run (PoolStatus × Nat) (Except Fault UInt32) :=
  (generateKeys .default 0 .trustedEnvironment 0 4).run.run limited state

/-- Of two pairs that are missing one is made before the custodian fails and one by the next
attempt, which answers for three keys. Once three chains are stored nothing needs a signature. -/
theorem reconcile_resumed :
    let first : PoolStatus := ⟨2, 1, 1, 0⟩
    let broken := attemptFour (first, 1)
    let resumed := attemptFour (broken.state.1, 5)
    let stored := resumed.state.1.withChain.withChain.withChain
    let last := attemptFour (stored, 5)
    let events := [.attempt broken.events broken.value, .attempt resumed.events resumed.value,
      .store, .store, .store, .attempt last.events last.value]
    PoolHistory 4 first events last.state.1 ∧ first.Sound 4 ∧
      (events.flatMap PoolEvent.events).countP Event.isPair = 2 ∧
      (events.flatMap PoolEvent.events).countP Event.isPair ≤
        (first.deficit 4).keysToGenerate.toNat ∧
      resumed.value = some (.ok 3) ∧ last.value = some (.ok 0) := by
  intro first broken resumed stored last events
  have hattempt (state : PoolStatus × Nat) : PoolStep 4 state.1
      (.attempt (attemptFour state).events (attemptFour state).value)
      (attemptFour state).state.1 :=
    .attempt (keepsPool_limited .trustedEnvironment) .default 0 0 state
  have hhistory : PoolHistory 4 first events last.state.1 :=
    .cons (hattempt (first, 1)) <| .cons (hattempt (broken.state.1, 5)) <|
      .cons (.store (by decide +kernel)) <| .cons (.store (by decide +kernel)) <|
      .cons (.store (by decide +kernel)) <| .cons (hattempt (stored, 5)) (.nil _)
  have hsound : first.Sound 4 := ⟨by decide, by decide, by decide, by decide⟩
  have hresumed : resumed.value = some (.ok 3) := by
    have hthree : resumed.value.bind Except.toOption = some 3 := by decide +kernel
    obtain ⟨result, hvalue, hresult⟩ := Option.bind_eq_some_iff.mp hthree
    cases result with
    | error fault => cases hresult
    | ok count =>
      cases hresult
      exact hvalue
  obtain ⟨hsum, hanswered⟩ := reconcile hhistory hsound
  refine ⟨hhistory, hsound, by decide +kernel, hsum, hresumed, ?_⟩
  obtain ⟨-, hlater⟩ := hanswered [.attempt broken.events broken.value] resumed.events 3
    [.store, .store, .store, .attempt last.events last.value]
    (by simp only [events, hresumed, List.singleton_append])
  exact hlater [.store, .store, .store] last.events last.value [] rfl (by decide)

end Cycle

end KeyProvisioning

import KeyProvisioning.Proofs.Cycle.Dormancy

/-!
# Taking over the order to turn provisioning off

A cycle has the store take over the server's policy before it acts on it. So the keys are deleted
only if the store can do so: a server that turns provisioning off is not heeded by a device whose
store fails, and the cycle asks to be run again instead.
-/

namespace KeyProvisioning.Cycle

variable {turns : List Turn}

/-- A cycle by which the server turns provisioning off is left where the store does not take over
the policy, or with the deletion of the keys. -/
theorem Exit.of_zero {before : Settings} {ending : Except Halt CycleOutcome}
    (h : Exit before turns ending) (on : before.extraKeys ≠ 0) {response : KeyResponse}
    (fetched : Fetched before turns response) (zero : response.config.extraKeys = some 0) :
    ∃ bytes,
      (∃ reply halt, reply.ending = .error halt ∧ ending = .error halt ∧
        turns = [⟨.fetchKeys before.serverUrl, .answered (.ok bytes)⟩,
          ⟨.updateSettings (.deviceConfig response.config), reply⟩]) ∨
      (∃ settings deletion, (deletion ≠ .crashed → ending = .ok .disabled) ∧
        turns = [⟨.fetchKeys before.serverUrl, .answered (.ok bytes)⟩,
          ⟨.updateSettings (.deviceConfig response.config), .answered (.ok settings)⟩,
          ⟨.deleteAllKeys, deletion⟩]) := by
  cases h with
  | stopped => exact absurd fetched (not_fetched_nil response)
  | notFetched failure => exact absurd fetched (not_fetched_of_failure failure response)
  | off decoded stays => simp [staysOff, on] at stays
  | @notAdopted bytes other decoded _ reply halt failed =>
    obtain rfl := (fetched_cons_iff decoded (by simp)).mp fetched
    exact ⟨bytes, .inl ⟨reply, halt, failed, rfl, rfl⟩⟩
  | @adopted bytes other decoded _ settings later ending rest =>
    obtain rfl := (rest.fetched_iff decoded _ _).mp fetched
    refine ⟨bytes, .inr ⟨settings, ?_⟩⟩
    cases rest with
    | deleted _ deletion => exact ⟨.answered deletion, fun _ => rfl, rfl⟩
    | deletionCrashed => exact ⟨.crashed, fun hcalm => absurd rfl hcalm, rfl⟩
    | replenished nonzero | notReplenished nonzero | notReset nonzero => exact absurd zero nonzero

/-- A cycle that is left by a fault and does not crash asks for another one. -/
theorem Aftermath.value_of_error {config : Config} {value : Option CycleOutcome} {halt : Halt}
    (h : Aftermath config turns value (.error halt)) (calm : value ≠ none) :
    value = some .rescheduleRequested := by
  cases halt with
  | none => exact absurd h.2 calm
  | some fault => exact Closing.value_eq h calm

/-- In a cycle by which the server turns provisioning off, and in which nothing crashes, the
store has the last word. If it takes over the policy, all keys are deleted and the cycle is
turned off; if it fails, the keys stay and another cycle is asked for. Nothing else is asked of
the custodian, and nothing is signed. -/
theorem run_deletes_iff_adopted {σ : Type} (surroundings : Surroundings σ) (config : Config)
    (now : Nat) (state : σ) {before : Settings}
    (calm : ∀ event ∈ ((run config now).run surroundings state).events, event.callEnd ≠ .crashed)
    (off : TurnsOff before ((run config now).turns surroundings state)) :
    let whole := (run config now).run surroundings state
    let calls := whole.events.map Event.call
    ∃ policy adoption, policy.extraKeys = some 0 ∧
      ⟨.updateSettings (.deviceConfig policy), adoption⟩ ∈ whole.events ∧
      (calls.filter Call.isCustodian = if adoption = .succeeded then [.deleteAllKeys] else []) ∧
      (∀ base csr challenge, .sign base csr challenge ∉ calls) ∧
      whole.value = some (if adoption = .succeeded then .disabled else .rescheduleRequested) := by
  intro whole calls
  obtain ⟨value, hvalue⟩ := Dialogue.exists_value_of_calm surroundings _ state calm
  have hcalm : whole.value ≠ none := by
    rw [hvalue]
    simp
  obtain ⟨ending, last, -, hgoes, hlast, hcourse⟩ :=
    run_course surroundings (fun _ _ => trivial) config now state
  have hevents : whole.events = ((run config now).turns surroundings state).map Turn.event :=
    Dialogue.events_run _ _ _
  rw [hevents] at calm
  simp only [calls, hevents, List.map_map]
  rw [hcourse] at off calm ⊢
  rcases attempt_exit hgoes with ⟨halt, hopening, rfl⟩ |
    ⟨held, opening, body, hopening, hexit, hbody⟩
  · rcases List.mem_append.mp off.1 with hload | hload
    · exact absurd hload (hopening.load_not_mem before)
    · exact absurd hload (hlast.load_not_mem before)
  · rw [hbody] at off calm ⊢
    obtain ⟨rfl, hon, response, hfetched, hzero⟩ := (turnsOff_iff hopening hexit hlast).mp off
    refine ⟨response.config, ?_⟩
    have hcustodian := filter_isCustodian_between body hopening.isStore hlast.isStore
    have hsign (base : String) (csr challenge : Bytes) :=
      have hstore : (Call.sign base csr challenge).isStore = false := rfl
      mem_calls_between_iff hstore body hopening.isStore hlast.isStore
    obtain ⟨bytes, ⟨reply, halt, hfailed, rfl, rfl⟩ | ⟨settings, deletion, hdisabled, rfl⟩⟩ :=
      hexit.of_zero hon hfetched hzero
    · have hcallEnd : reply.callEnd ≠ .succeeded := by
        intro hsucceeded
        obtain ⟨answer, rfl⟩ := Reply.exists_eq_of_succeeded hsucceeded
        cases hfailed
      refine ⟨reply.callEnd, hzero, by simp [Turn.event], ?_, ?_, ?_⟩
      · rw [if_neg hcallEnd]
        exact hcustodian
      · intro base csr challenge hmem
        simpa using (hsign base csr challenge).mp hmem
      · rw [if_neg hcallEnd]
        exact hlast.value_of_error hcalm
    · have hdeletion : deletion ≠ .crashed := by
        rintro rfl
        exact calm ⟨.deleteAllKeys, .crashed⟩ (by simp [Turn.event, Reply.callEnd]) rfl
      rw [hdisabled hdeletion] at hlast
      refine ⟨.succeeded, hzero, by simp [Turn.event, Reply.callEnd], hcustodian, ?_, hlast.2⟩
      intro base csr challenge hmem
      simpa using (hsign base csr challenge).mp hmem

/-- A store that cannot be written, of a device that the server turns off. -/
def unwritable : Surroundings Unit where
  reply
    | .fetchKeys _, _ => (.answered (.ok (keysResponse 0)), ())
    | .updateSettings _, _ => (.answered (.error (SettingsFault.write : Fault)), ())
    | .loadSettings, _ => (.answered (.ok .default), ())
    | .clearSettings, _ => (.answered (.ok ()), ())
    | .deleteAllKeys, _ => (.answered (.ok 3), ())
    | _, _ => (.crashed, ())
  isStopped _ := false

/-- The server turns the device off. -/
theorem turnsOff_unwritable :
    TurnsOff .default ((run .default 0).turns unwritable.withMemory ((), .new .default)) := by
  have hturns : (run .default 0).turns unwritable.withMemory ((), .new .default) =
      [⟨.loadSettings, .answered (.ok .default)⟩,
        ⟨.fetchKeys Settings.default.serverUrl, .answered (.ok (keysResponse 0))⟩,
        ⟨.updateSettings (.deviceConfig ⟨some 0, none, none⟩),
          .answered (.error (SettingsFault.write : Fault))⟩] := by rfl
  rw [hturns]
  exact ⟨by simp, by decide, ⟨[0x80], [], ⟨some 0, none, none⟩⟩,
    ⟨keysResponse 0, by simp, by rfl⟩, rfl⟩

theorem run_deletes_iff_adopted_unwritable :
    let whole := (run .default 0).run unwritable.withMemory ((), .new .default)
    (∀ event ∈ whole.events, event.callEnd ≠ .crashed) ∧
    ∃ policy adoption, policy.extraKeys = some 0 ∧
      ⟨.updateSettings (.deviceConfig policy), adoption⟩ ∈ whole.events ∧
      adoption ≠ .succeeded ∧ (whole.events.map Event.call).filter Call.isCustodian = [] := by
  intro whole
  have hcalm : ∀ event ∈ whole.events, event.callEnd ≠ .crashed := by decide +kernel
  have hvalue : whole.value = some .rescheduleRequested := by decide +kernel
  obtain ⟨policy, adoption, hzero, hmem, hcustodian, -, hended⟩ :=
    run_deletes_iff_adopted unwritable.withMemory .default 0 ((), .new .default) hcalm
      turnsOff_unwritable
  have hadoption : adoption ≠ .succeeded := by
    rintro rfl
    cases hvalue.symm.trans hended
  rw [if_neg hadoption] at hcustodian
  exact ⟨hcalm, policy, adoption, hzero, hmem, hadoption, hcustodian⟩

/-- A store that cannot be written keeps a device that the server turns off from deleting its
keys. -/
theorem run_unwritable_keeps_keys :
    let whole := (run .default 0).run unwritable.withMemory ((), .new .default)
    TurnsOff .default ((run .default 0).turns unwritable.withMemory ((), .new .default)) ∧
      ⟨.updateSettings (.deviceConfig ⟨some 0, none, none⟩),
        .failed (SettingsFault.write : Fault)⟩ ∈ whole.events ∧
      .deleteAllKeys ∉ whole.events.map Event.call ∧ whole.value = some .rescheduleRequested :=
  ⟨turnsOff_unwritable, by decide +kernel, by decide +kernel, by decide +kernel⟩

end KeyProvisioning.Cycle

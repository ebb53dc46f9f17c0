import KeyProvisioning.Message.KeyResponse
import KeyProvisioning.Proofs.Settings.FileStore

/-!
# Keeping the server's policy in a file

The server sends the interval between cycles in hours. Every number of hours whose seconds are a
count of 64 bits is decoded, but a document holds only counts below half of these. A policy that
was decoded is therefore stored in a file exactly if its interval is short enough, and any other
policy is refused as a whole.
-/

namespace KeyProvisioning

open Cbor (Item)

/-! ## The hours of a policy -/

namespace DeviceConfig

/-- The hours that a value asks for as the value of a field. -/
def Field.hours? (field : Field) (value : Item) : Option Nat :=
  match field with
  | refreshHours => value.unsigned?
  | _ => none

/-- The hours that an entry of a policy asks for. -/
def hoursOf? (entry : Item × Item) : Option Nat :=
  (Field.ofKey? entry.1).bind fun field => field.hours? entry.2

/-- The hours that a policy asks for: those of the last entry that asks for any. -/
def sentHours : Item → Option Nat
  | .map entries => (entries.filterMap hoursOf?).getLast?
  | _ => none

/-- The seconds of an interval of hours. -/
def secondsOf (hours : Option Nat) : Option Nat :=
  hours.map (· * secondsPerHour)

/-- Only the field of hours sets an interval, and it sets the seconds of the hours. -/
theorem refreshSeconds_of_set? {config config' : DeviceConfig} {field : Field} {value : Item}
    (h : config.set? field value = some config') :
    config'.refreshSeconds.map UInt64.toNat =
      (secondsOf (field.hours? value)).or (config.refreshSeconds.map UInt64.toNat) := by
  cases field with
  | extraKeys =>
    simp only [set?] at h
    split at h
    · split at h
      · cases h
        rfl
      · cases h
    · cases h
  | refreshHours =>
    simp only [set?] at h
    split at h
    · rename_i hours hunsigned
      split at h
      · rename_i hfits
        cases h
        have hseconds := UInt64.toNat_ofNat_of_lt' hfits
        rw [Field.hours?, hunsigned, Option.map_some, hseconds]
        rfl
      · cases h
    · cases h
  | serverUrl =>
    simp only [set?] at h
    split at h
    · cases h
      rfl
    · cases h

theorem refreshSeconds_of_addEntry {config config' : DeviceConfig} {entry : Item × Item}
    (h : config.addEntry entry = .ok config') :
    config'.refreshSeconds.map UInt64.toNat =
      (secondsOf (hoursOf? entry)).or (config.refreshSeconds.map UInt64.toNat) := by
  unfold addEntry at h
  split at h
  · rename_i hfield
    cases h
    rw [hoursOf?, hfield]
    rfl
  · rename_i field hfield
    rw [hoursOf?, hfield, Option.bind_some]
    split at h
    · rename_i next hset
      cases h
      exact refreshSeconds_of_set? hset
    · cases h

theorem refreshSeconds_of_addEntries {config config' : DeviceConfig} {entries : List (Item × Item)}
    (h : config.addEntries entries = .ok config') :
    config'.refreshSeconds.map UInt64.toNat =
      (secondsOf (entries.filterMap hoursOf?).getLast?).or
        (config.refreshSeconds.map UInt64.toNat) := by
  induction entries generalizing config with
  | nil =>
    cases h
    rfl
  | cons entry entries ih =>
    rw [addEntries] at h
    split at h
    · rename_i next hnext
      rw [ih h, refreshSeconds_of_addEntry hnext, List.filterMap_cons]
      cases hoursOf? entry with
      | none => rfl
      | some hours =>
        rw [List.getLast?_cons]
        cases (entries.filterMap hoursOf?).getLast? <;> rfl
    · cases h

theorem refreshSeconds_of_ofItem {item : Item} {config : DeviceConfig}
    (h : ofItem item = .ok config) :
    config.refreshSeconds.map UInt64.toNat = secondsOf (sentHours item) := by
  unfold ofItem at h
  split at h
  · have hseconds := refreshSeconds_of_addEntries h
    rwa [empty, Option.map_none, Option.or_none] at hseconds
  · cases h

end DeviceConfig

/-- The hours that the policy of an encryption key response asks for. -/
def KeyResponse.sentHours (bs : Bytes) : Option Nat :=
  match Message.topLevel bs with
  | .ok [_, _, config] => DeviceConfig.sentHours config
  | _ => none

theorem KeyResponse.refreshSeconds_of_ofElements {chain challenge : Item} {config : Option Item}
    {response : KeyResponse} (h : ofElements chain challenge config = .ok response) :
    response.config.refreshSeconds.map UInt64.toNat =
      DeviceConfig.secondsOf (config.bind DeviceConfig.sentHours) := by
  unfold ofElements at h
  cases hchain : chainEntries chain with
  | error fault =>
    rw [hchain] at h
    cases h
  | ok entries =>
  cases hchallenge : Message.bytesOf .challengeNotBytes challenge with
  | error fault =>
    rw [hchain, hchallenge] at h
    cases h
  | ok content =>
  rw [hchain, hchallenge] at h
  cases config with
  | none =>
    cases h
    rfl
  | some item =>
    cases hitem : DeviceConfig.ofItem item with
    | error fault =>
      simp only [hitem, bind, Except.bind] at h
      cases h
    | ok policy =>
      simp only [hitem, bind, Except.bind] at h
      cases h
      exact DeviceConfig.refreshSeconds_of_ofItem hitem

/-- The decoded interval is that of the hours sent. -/
theorem KeyResponse.refreshSeconds_of_decode {bs : Bytes} {response : KeyResponse}
    (h : KeyResponse.decode bs = .ok response) :
    response.config.refreshSeconds.map UInt64.toNat =
      DeviceConfig.secondsOf (KeyResponse.sentHours bs) := by
  unfold KeyResponse.decode at h
  unfold KeyResponse.sentHours
  cases htop : Message.topLevel bs with
  | error fault =>
    rw [htop] at h
    cases h
  | ok elements =>
    rw [htop] at h
    simp only [bind, Except.bind] at h
    split at h
    · exact refreshSeconds_of_ofElements h
    · exact refreshSeconds_of_ofElements h
    · cases h

/-! ## Storing a policy -/

namespace Settings

/-- Settings that can be written take over a policy to settings that can be written, exactly if the
interval of the policy is an integer of a document. -/
theorem isWritable_withDeviceConfig_iff {settings : Settings} (h : settings.IsWritable)
    (config : DeviceConfig) :
    (settings.withDeviceConfig config).IsWritable ↔
      ∀ seconds ∈ config.refreshSeconds.map UInt64.toNat, (seconds : Int) ≤ Toml.maxInteger := by
  cases hrefresh : config.refreshSeconds with
  | none =>
    have hsame : (settings.withDeviceConfig config).refreshSeconds = settings.refreshSeconds := by
      simp [withDeviceConfig, hrefresh]
    constructor
    · simp
    · intro _
      exact ⟨h.expiring, by rw [hsame]; exact h.refresh⟩
  | some seconds =>
    have hset : (settings.withDeviceConfig config).refreshSeconds = seconds := by
      simp [withDeviceConfig, hrefresh]
    constructor
    · intro hwritable
      simpa [hset] using hwritable.refresh
    · intro hseconds
      exact ⟨h.expiring, by rw [hset]; simpa using hseconds⟩

end Settings

namespace FileStore

/-- The policy of a response that was decoded is stored in a file on a working disk, and the
following load gives the old settings with the fields of the policy, exactly if the seconds of
the hours sent are an integer of a document. Any other policy is refused, and the store stays as
it is. -/
theorem update_policy {store : FileStore} (working : store.disk.IsWorking) {old : Settings}
    (loads : store.load = .ok old) {bytes : Bytes} {response : KeyResponse}
    (decoded : KeyResponse.decode bytes = .ok response) :
    let seconds := DeviceConfig.secondsOf (KeyResponse.sentHours bytes)
    let updated := store.update fun settings => some (settings.withDeviceConfig response.config)
    response.config.refreshSeconds.map UInt64.toNat = seconds ∧
      ((∀ n ∈ seconds, (n : Int) ≤ Toml.maxInteger) →
        updated.1 = .stored (old.withDeviceConfig response.config) ∧
          updated.2.load = .ok (old.withDeviceConfig response.config)) ∧
      (¬ (∀ n ∈ seconds, (n : Int) ≤ Toml.maxInteger) → updated = (.failed .write, store)) := by
  intro seconds updated
  have hseconds := KeyResponse.refreshSeconds_of_decode decoded
  have hholds := holds_of_load working loads
  have hwritable := Settings.isWritable_withDeviceConfig_iff hholds.isWritable response.config
  rw [hseconds] at hwritable
  refine ⟨hseconds, ?_, ?_⟩
  · intro hshort
    obtain ⟨store', hupdate, hnew⟩ :=
      hholds.update_of_isWritable (·.withDeviceConfig response.config) (hwritable.mpr hshort)
    simp only [updated, hupdate, true_and]
    exact hnew.load
  · intro hlong
    exact hholds.update_of_not_isWritable _ (mt hwritable.mp hlong)

/-- A response with an empty key chain and an empty challenge whose policy is a number of hours,
written in CBOR. -/
def hoursResponse (hours : Bytes) : Bytes :=
  [0x83, 0x80, 0x40, 0xA1, 0x75] ++ Utf8.encode DeviceConfig.Field.refreshHours.key.toList ++ hours

/-- What such a response is decoded as. -/
def secondsResponse (seconds : UInt64) : KeyResponse :=
  ⟨[0x80], [], ⟨none, some seconds, none⟩⟩

theorem decode_twoDays :
    KeyResponse.decode (hoursResponse [0x18, 48]) = .ok (secondsResponse 172800) := by
  rfl

/-- An interval of two days is stored. -/
theorem update_policy_twoDays :
    let store := FileStore.new ⟨.missing, .missing, true⟩
    let config := (secondsResponse 172800).config
    (store.update fun settings => some (settings.withDeviceConfig config)).2.load =
      .ok (Settings.default.withDeviceConfig config) := by
  intro store config
  have working : store.disk.IsWorking := ⟨rfl, by decide, by decide⟩
  have loads : store.load = .ok .default := rfl
  have short : ∀ n ∈ DeviceConfig.secondsOf (KeyResponse.sentHours (hoursResponse [0x18, 48])),
      (n : Int) ≤ Toml.maxInteger := by
    rw [← KeyResponse.refreshSeconds_of_decode decode_twoDays]
    decide
  have stored := (update_policy working loads decode_twoDays).2.1 short
  exact stored.2

/-- An interval of 2562047788015216 hours is decoded and cannot be stored: its seconds are more
than the greatest integer of a document. -/
theorem long_policy_refused :
    let store := FileStore.new ⟨.missing, .missing, true⟩
    let response := secondsResponse 9223372036854777600
    KeyResponse.decode (hoursResponse [0x1B, 0x00, 0x09, 0x1A, 0x2B, 0x3C, 0x4D, 0x5E, 0x70]) =
        .ok response ∧
      store.disk.IsWorking ∧ store.load = .ok .default ∧
      store.update (fun settings => some (settings.withDeviceConfig response.config)) =
        (.failed .write, store) := by
  intro store response
  have working : store.disk.IsWorking := ⟨rfl, by decide, by decide⟩
  refine ⟨by rfl, working, rfl, ?_⟩
  have hholds := holds_new_of_missing working rfl
  exact hholds.update_of_not_isWritable (·.withDeviceConfig response.config) (by decide)

end FileStore

end KeyProvisioning

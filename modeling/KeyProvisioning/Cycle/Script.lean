import KeyProvisioning.Cycle.Dialogue
import KeyProvisioning.Settings.Store

/-!
# Scripts

A script fixes what the collaborators do, call by call: each method has a list of replies, of
which the n-th call gets the n-th and every later call the last one. A method without a list
gives a fixed reply. A store call whose reply is a success goes on to a real store; any other
reply keeps the call from the store.
-/

namespace KeyProvisioning

/-- What a call asks for, without its arguments. -/
inductive Method
  | generateCsr
  | generateKeyPair
  | poolStatus
  | provisionChain
  | deleteAllKeys
  | implementations
  | fetchKeys
  | sign
  | loadSettings
  | updateSettings
  | clearSettings
  deriving DecidableEq, Repr

/-- The method of a call. -/
def Call.method : Call → Method
  | generateCsr .. => .generateCsr
  | generateKeyPair .. => .generateKeyPair
  | poolStatus .. => .poolStatus
  | provisionChain _ => .provisionChain
  | deleteAllKeys => .deleteAllKeys
  | implementations => .implementations
  | fetchKeys _ => .fetchKeys
  | sign .. => .sign
  | loadSettings => .loadSettings
  | updateSettings _ => .updateSettings
  | clearSettings => .clearSettings

/-- The replies of each method. -/
structure Script where
  generateCsr : List (Reply Bytes)
  generateKeyPair : List (Reply Unit)
  poolStatus : List (Reply PoolStatus)
  provisionChain : List (Reply Unit)
  deleteAllKeys : List (Reply UInt32)
  implementations : List (Reply (List Implementation))
  fetchKeys : List (Reply Bytes)
  sign : List (Reply Bytes)
  loadSettings : List (Reply Unit)
  updateSettings : List (Reply Unit)
  clearSettings : List (Reply Unit)

/-- The reply to the n-th call, counted from zero: the last reply repeats, and without replies a
value is answered. -/
def replyAt {α : Type} (replies : List (Reply α)) (value : α) (n : Nat) : Reply α :=
  match replies[n]?, replies.getLast? with
  | some reply, _ => reply
  | none, some last => last
  | none, none => .answered (.ok value)

/-- The reply of a store call: a success asks the store. -/
def Reply.orElseStore {α : Type} (reply : Reply Unit) (store : SettingsStore)
    (access : SettingsStore → Reply α × SettingsStore) : Reply α × SettingsStore :=
  match reply with
  | .answered (.ok ()) => access store
  | .answered (.error fault) => (.answered (.error fault), store)
  | .crashed => (.crashed, store)

/-- A result of the store as a reply. -/
def Reply.ofStore {α : Type} (result : Except SettingsFault α) : Reply α :=
  .answered (result.mapError fun reason => .ofCause (.settings reason))

namespace SettingsStore

/-- A store asked for its settings. -/
def replyLoad (store : SettingsStore) : Reply Settings × SettingsStore :=
  (.ofStore store.load, store)

/-- A store asked for a change. -/
def replyUpdate (change : SettingsChange) (store : SettingsStore) :
    Reply Settings × SettingsStore :=
  match store.update fun settings => some (change.apply settings) with
  | (.stored settings, store') => (.ofStore (.ok settings), store')
  | (.failed fault, store') => (.ofStore (.error fault), store')
  | (.crashed, store') => (.crashed, store')

/-- A store asked for the defaults. -/
def replyClear (store : SettingsStore) : Reply Unit × SettingsStore :=
  (.ofStore store.clear.1, store.clear.2)

end SettingsStore

namespace Script

/-- The reply to a call before which its method was called `n` times. -/
def reply (script : Script) (n : Nat) (store : SettingsStore) :
    (call : Call) → Reply call.Answer × SettingsStore
  | .generateCsr .. => (replyAt script.generateCsr [0x63, 0x73, 0x72] n, store)
  | .generateKeyPair .. => (replyAt script.generateKeyPair () n, store)
  | .poolStatus .. => (replyAt script.poolStatus ⟨0, 0, 0, 0⟩ n, store)
  | .provisionChain _ => (replyAt script.provisionChain () n, store)
  | .deleteAllKeys => (replyAt script.deleteAllKeys 0 n, store)
  | .implementations =>
    (replyAt script.implementations [⟨.trustedEnvironment, 1⟩] n, store)
  | .fetchKeys _ => (replyAt script.fetchKeys [] n, store)
  | .sign .. => (replyAt script.sign [] n, store)
  | .loadSettings =>
    (replyAt script.loadSettings () n).orElseStore store SettingsStore.replyLoad
  | .updateSettings change =>
    (replyAt script.updateSettings () n).orElseStore store (SettingsStore.replyUpdate change)
  | .clearSettings =>
    (replyAt script.clearSettings () n).orElseStore store SettingsStore.replyClear

end Script

end KeyProvisioning

import KeyProvisioning.Message.KeyResponse
import KeyProvisioning.Proofs.Message.DeviceConfig

/-!
# The grammar of encryption key responses

A response is decoded from the encodings of `[[chain entry, ...], challenge]`, or of this with a
policy whose entries fit. Every other message is refused for the first check that it does not
pass.
-/

namespace KeyProvisioning.KeyResponse

open Cbor Message

/-- A message holds this response. -/
inductive Holds (bs : Bytes) : KeyResponse → Prop
  | plain {chain : List Bytes} {challenge : Bytes}
    (encoded : (Item.array [.array (chain.map .bytes), .bytes challenge]).Encoded bs) :
    Holds bs ⟨writeByteStrings chain, challenge, ⟨none, none, none⟩⟩
  | withPolicy {chain : List Bytes} {challenge : Bytes} {entries : List (Item × Item)}
    {config : DeviceConfig}
    (encoded : (Item.array [.array (chain.map .bytes), .bytes challenge, .map entries]).Encoded bs)
    (fit : DeviceConfig.EntriesFit entries) (policy : DeviceConfig.IsPolicyOf entries config) :
    Holds bs ⟨writeByteStrings chain, challenge, config⟩

/-- Why a message holds no response, if every check before this one passes. -/
inductive Fails (bs : Bytes) : DecodeFault → Prop
  | envelope {fault : DecodeFault} (fails : EnvelopeFails bs fault) : Fails bs fault
  | arity {elements : List Item} (encoded : (Item.array elements).Encoded bs)
    (two : elements.length ≠ 2) (three : elements.length ≠ 3) : Fails bs .wrongArity
  | chain {chain challenge : Item} {policy : Option Item}
    (encoded : (Item.array (chain :: challenge :: policy.toList)).Encoded bs)
    (other : ∀ entries, chain ≠ .array entries) : Fails bs .keyChainNotArray
  /-- One chain entry anywhere in the list is no byte string. -/
  | entry {chain : List Item} {challenge : Item} {policy : Option Item}
    (encoded : (Item.array (.array chain :: challenge :: policy.toList)).Encoded bs)
    (other : ∃ entry ∈ chain, ∀ content, entry ≠ .bytes content) : Fails bs .keyChainEntryNotBytes
  | challenge {chain : List Bytes} {challenge : Item} {policy : Option Item}
    (encoded : (Item.array (.array (chain.map .bytes) :: challenge :: policy.toList)).Encoded bs)
    (other : ∀ content, challenge ≠ .bytes content) : Fails bs .challengeNotBytes
  | policy {chain : List Bytes} {challenge : Bytes} {policy : Item}
    (encoded : (Item.array [.array (chain.map .bytes), .bytes challenge, policy]).Encoded bs)
    (other : ∀ entries, policy ≠ .map entries) : Fails bs .deviceConfigNotMap
  /-- One entry anywhere in the policy holds a value that its field does not admit. -/
  | value {chain : List Bytes} {challenge : Bytes} {entries : List (Item × Item)}
    (encoded : (Item.array [.array (chain.map .bytes), .bytes challenge, .map entries]).Encoded bs)
    (unfit : ¬ DeviceConfig.EntriesFit entries) : Fails bs .deviceConfigBadValue

/-! ## The elements -/

theorem chainEntries_eq_ok_iff {chain : Item} {entries : List Bytes} :
    chainEntries chain = .ok entries ↔ chain = .array (entries.map .bytes) := by
  simp only [chainEntries, bind_eq_ok_iff, elementsOf_eq_ok_iff, mapM_bytesOf_eq_ok_iff]
  constructor
  · rintro ⟨_, rfl, rfl⟩
    rfl
  · rintro rfl
    exact ⟨_, rfl, rfl⟩

theorem chainEntries_eq_error_iff {chain : Item} {fault : DecodeFault} :
    chainEntries chain = .error fault ↔
      (fault = .keyChainNotArray ∧ ∀ entries, chain ≠ .array entries) ∨
        ∃ entries, chain = .array entries ∧ fault = .keyChainEntryNotBytes ∧
          ∃ entry ∈ entries, ∀ content, entry ≠ .bytes content := by
  simp only [chainEntries, bind_eq_error_iff, elementsOf_eq_ok_iff, elementsOf_eq_error_iff,
    mapM_bytesOf_eq_error_iff]

/-- The policy that is taken over from the element for it, which may be missing. -/
def policyOf : Option Item → Except DecodeFault DeviceConfig
  | some item => DeviceConfig.ofItem item
  | none => .ok DeviceConfig.empty

theorem ofElements_eq (chain challenge : Item) (policy : Option Item) :
    ofElements chain challenge policy = do
      let entries ← chainEntries chain
      let content ← bytesOf .challengeNotBytes challenge
      let config ← policyOf policy
      return ⟨writeByteStrings entries, content, config⟩ := by
  cases policy <;> rfl

theorem ofElements_eq_ok_iff {chain challenge : Item} {policy : Option Item}
    {response : KeyResponse} :
    ofElements chain challenge policy = .ok response ↔
      ∃ (entries : List Bytes) (content : Bytes) (config : DeviceConfig),
        chain = .array (entries.map .bytes) ∧ challenge = .bytes content ∧
          policyOf policy = .ok config ∧
          response = ⟨writeByteStrings entries, content, config⟩ := by
  simp only [ofElements_eq, bind_eq_ok_iff, chainEntries_eq_ok_iff, bytesOf_eq_ok_iff, pure,
    Except.pure, Except.ok.injEq]
  constructor
  · rintro ⟨entries, rfl, content, rfl, config, hconfig, rfl⟩
    exact ⟨entries, content, config, rfl, rfl, hconfig, rfl⟩
  · rintro ⟨entries, content, config, rfl, rfl, hconfig, rfl⟩
    exact ⟨entries, rfl, content, rfl, config, hconfig, rfl⟩

theorem ofElements_eq_error_iff {chain challenge : Item} {policy : Option Item}
    {fault : DecodeFault} :
    ofElements chain challenge policy = .error fault ↔
      chainEntries chain = .error fault ∨
        ∃ entries : List Bytes, chain = .array (entries.map .bytes) ∧
          ((fault = .challengeNotBytes ∧ ∀ content, challenge ≠ .bytes content) ∨
            ∃ content, challenge = .bytes content ∧ policyOf policy = .error fault) := by
  simp only [ofElements_eq, bind_eq_error_iff, chainEntries_eq_ok_iff, bytesOf_eq_ok_iff,
    bytesOf_eq_error_iff, pure, Except.pure, reduceCtorEq, and_false, exists_false, or_false]

/-! ## The whole message -/

theorem decode_eq_ok_iff {bs : Bytes} {response : KeyResponse} :
    decode bs = .ok response ↔
      ∃ (chain challenge : Item) (policy : Option Item),
        (Item.array (chain :: challenge :: policy.toList)).Encoded bs ∧
          ofElements chain challenge policy = .ok response := by
  simp only [decode, bind_eq_ok_iff, topLevel_eq_ok_iff]
  constructor
  · rintro ⟨elements, encoded, h⟩
    split at h
    · exact ⟨_, _, none, encoded, h⟩
    · exact ⟨_, _, some _, encoded, h⟩
    · cases h
  · rintro ⟨chain, challenge, policy, encoded, h⟩
    refine ⟨_, encoded, ?_⟩
    cases policy <;> exact h

theorem decode_eq_error_iff {bs : Bytes} {fault : DecodeFault} :
    decode bs = .error fault ↔
      EnvelopeFails bs fault ∨
        (∃ elements, (Item.array elements).Encoded bs ∧ elements.length ≠ 2 ∧
          elements.length ≠ 3 ∧ fault = .wrongArity) ∨
          ∃ (chain challenge : Item) (policy : Option Item),
            (Item.array (chain :: challenge :: policy.toList)).Encoded bs ∧
              ofElements chain challenge policy = .error fault := by
  simp only [decode, bind_eq_error_iff, topLevel_eq_ok_iff, topLevel_eq_error_iff]
  apply or_congr_right
  constructor
  · rintro ⟨elements, encoded, h⟩
    split at h
    · exact Or.inr ⟨_, _, none, encoded, h⟩
    · exact Or.inr ⟨_, _, some _, encoded, h⟩
    · rename_i htwo hthree
      cases h
      refine Or.inl ⟨elements, encoded, ?_, ?_, rfl⟩
      · intro hlength
        match elements, hlength with
        | [chain, challenge], _ => exact htwo chain challenge rfl
      · intro hlength
        match elements, hlength with
        | [chain, challenge, policy], _ => exact hthree chain challenge policy rfl
  · rintro (⟨elements, encoded, htwo, hthree, rfl⟩ | ⟨chain, challenge, policy, encoded, h⟩)
    · refine ⟨elements, encoded, ?_⟩
      split
      · exact absurd rfl htwo
      · exact absurd rfl hthree
      · rfl
    · refine ⟨_, encoded, ?_⟩
      cases policy <;> exact h

/-- A response is decoded exactly if the message holds it: the chain in its shortest form, the
challenge as it is and the policy that the entries say. Otherwise the fault is that of the first
check that does not pass, and it is reported exactly then. -/
theorem keyResponse_grammar (bs : Bytes) :
    (∀ response, decode bs = .ok response ↔ Holds bs response) ∧
      ∀ fault, decode bs = .error fault ↔ Fails bs fault := by
  constructor
  · intro response
    simp only [decode_eq_ok_iff, ofElements_eq_ok_iff]
    constructor
    · rintro ⟨_, _, policy, encoded, chain, challenge, config, rfl, rfl, hconfig, rfl⟩
      cases policy with
      | none =>
        cases hconfig
        exact .plain encoded
      | some item =>
        obtain ⟨entries, rfl, fit, hpolicy⟩ := DeviceConfig.ofItem_eq_ok_iff.mp hconfig
        exact .withPolicy encoded fit hpolicy
    · intro h
      cases h with
      | plain encoded => exact ⟨_, _, none, encoded, _, _, _, rfl, rfl, rfl, rfl⟩
      | withPolicy encoded fit policy =>
        have hconfig := DeviceConfig.ofItem_eq_ok_iff.mpr ⟨_, rfl, fit, policy⟩
        exact ⟨_, _, some _, encoded, _, _, _, rfl, rfl, hconfig, rfl⟩
  · intro fault
    simp only [decode_eq_error_iff, ofElements_eq_error_iff, chainEntries_eq_error_iff]
    constructor
    · rintro (fails | ⟨elements, encoded, htwo, hthree, rfl⟩ |
        ⟨chain, challenge, policy, encoded, h⟩)
      · exact .envelope fails
      · exact .arity encoded htwo hthree
      obtain (⟨rfl, other⟩ | ⟨entries, rfl, rfl, other⟩) | ⟨entries, rfl, h⟩ := h
      · exact .chain encoded other
      · exact .entry encoded other
      obtain ⟨rfl, other⟩ | ⟨content, rfl, hconfig⟩ := h
      · exact .challenge encoded other
      cases policy with
      | none => cases hconfig
      | some item =>
        obtain ⟨rfl, other⟩ | ⟨entries, rfl, rfl, unfit⟩ :=
          DeviceConfig.ofItem_eq_error_iff.mp hconfig
        · exact .policy encoded other
        · exact .value encoded unfit
    · intro h
      cases h with
      | envelope fails => exact Or.inl fails
      | arity encoded two three => exact Or.inr (Or.inl ⟨_, encoded, two, three, rfl⟩)
      | chain encoded other =>
        exact Or.inr (Or.inr ⟨_, _, _, encoded, Or.inl (Or.inl ⟨rfl, other⟩)⟩)
      | entry encoded other =>
        exact Or.inr (Or.inr ⟨_, _, _, encoded, Or.inl (Or.inr ⟨_, rfl, rfl, other⟩)⟩)
      | challenge encoded other =>
        exact Or.inr (Or.inr ⟨_, _, _, encoded, Or.inr ⟨_, rfl, Or.inl ⟨rfl, other⟩⟩⟩)
      | policy encoded other =>
        have hconfig := DeviceConfig.ofItem_eq_error_iff.mpr (Or.inl ⟨rfl, other⟩)
        exact Or.inr (Or.inr ⟨_, _, some _, encoded, Or.inr ⟨_, rfl, Or.inr ⟨_, rfl, hconfig⟩⟩⟩)
      | value encoded unfit =>
        have hconfig := DeviceConfig.ofItem_eq_error_iff.mpr (Or.inr ⟨_, rfl, rfl, unfit⟩)
        exact Or.inr (Or.inr ⟨_, _, some _, encoded, Or.inr ⟨_, rfl, Or.inr ⟨_, rfl, hconfig⟩⟩⟩)

end KeyProvisioning.KeyResponse

import OpenWind.Webhooks.Gateway
import OpenWind.Lib.Joined
import Mathlib.Algebra.Group.Nat.Defs

/-!
# What a signature binds

A signature is over the delivery id, the timestamp and the body, joined by dots.  A delivery id
may hold dots itself, and then the text that was signed for one delivery can be read as that of
another, whose id goes on where the timestamp of the first stood.
-/

open List

namespace OpenWind

open Joined

/-! ## Signed deliveries -/

structure SignedParts where
  deliveryId : String
  timestamp : Nat
  rawBody : String
  deriving DecidableEq

namespace SignedParts

def signedText (parts : SignedParts) : String :=
  parts.deliveryId ++ "." ++ toString parts.timestamp ++ "." ++ parts.rawBody

/-- The clock of a server, in milliseconds, is a date. -/
def maxTime : Nat := 8640000000000000

def Accepted (parts : SignedParts) : Prop :=
  ∃ (request : WebhookRequest) (now : Time) (delivery : SignedDelivery), now ≤ maxTime ∧
    request.fresh now = some delivery ∧
    parts = ⟨delivery.deliveryId, delivery.timestamp, delivery.rawBody⟩

def verifies (gateway : Gateway) (secret signatureHex : String) (parts : SignedParts) : Bool :=
  gateway.verifyOutboundSignature secret parts.deliveryId parts.rawBody parts.timestamp signatureHex

def Continues (parts other : SignedParts) : Prop :=
  (other.deliveryId = parts.deliveryId ++ "." ++ toString parts.timestamp ∧
      parts.rawBody = toString other.timestamp ++ "." ++ other.rawBody) ∨
    ∃ more, other.deliveryId = parts.deliveryId ++ "." ++ toString parts.timestamp ++ "." ++ more ∧
      parts.rawBody = more ++ "." ++ toString other.timestamp ++ "." ++ other.rawBody

/-- What follows the delivery id in the signed text. -/
def tail (parts : SignedParts) : List Char :=
  Nat.toDigits 10 parts.timestamp ++ '.' :: parts.rawBody.toList

theorem signedText_toList (parts : SignedParts) :
    parts.signedText.toList = parts.deliveryId.toList ++ '.' :: parts.tail := by
  simp [signedText, tail, Nat.toString_eq_repr]

variable {a b : SignedParts}

theorem eq_of_tail (id : a.deliveryId.toList = b.deliveryId.toList) (rest : a.tail = b.tail) :
    a = b := by
  obtain ⟨timestamp, body⟩ := cut_unique (not_mem_toDigits rfl _) (not_mem_toDigits rfl _) rest
  cases a
  cases b
  cases String.toList_injective id
  cases toDigits_injective timestamp
  cases String.toList_injective body
  rfl

theorem continues_iff :
    Continues a b ↔ ∃ more, b.deliveryId.toList = a.deliveryId.toList ++ '.' :: more ∧
      a.tail = more ++ '.' :: b.tail := by
  unfold Continues
  simp only [← String.toList_inj]
  constructor
  · rintro (⟨id, body⟩ | ⟨more, id, body⟩)
    · refine ⟨Nat.toDigits 10 a.timestamp, by simpa [Nat.toString_eq_repr] using id, ?_⟩
      rw [tail, body]
      simp [tail, Nat.toString_eq_repr]
    · refine ⟨Nat.toDigits 10 a.timestamp ++ '.' :: more.toList,
        by simpa [Nat.toString_eq_repr] using id, ?_⟩
      rw [tail, body]
      simp [tail, Nat.toString_eq_repr]
  · rintro ⟨more, id, rest⟩
    rcases cut_cases (not_mem_toDigits rfl a.timestamp) rest with ⟨rfl, body⟩ | ⟨more, rfl, body⟩
    · refine .inl ⟨?_, ?_⟩
      · rw [id]
        simp [Nat.toString_eq_repr]
      · rw [body]
        simp [tail, Nat.toString_eq_repr]
    · refine .inr ⟨String.ofList more, ?_, ?_⟩
      · rw [id]
        simp [Nat.toString_eq_repr]
      · rw [body]
        simp [tail, Nat.toString_eq_repr]

theorem Continues.ne (continues : Continues a b) : a ≠ b := by
  rintro rfl
  obtain ⟨more, id, _⟩ := continues_iff.mp continues
  exact absurd (append_cancel_left ((append_nil _).trans id)) nofun

theorem signedText_eq_iff :
    a.signedText = b.signedText ↔ a = b ∨ Continues a b ∨ Continues b a := by
  rw [← String.toList_inj, signedText_toList, signedText_toList, continues_iff, continues_iff]
  constructor
  · intro same
    rcases append_eq_append_iff.mp same with ⟨more, id, rest⟩ | ⟨more, id, rest⟩
    · cases more with
      | nil => exact .inl (eq_of_tail (id.trans (append_nil _)).symm (List.cons.inj rest).2)
      | cons c more =>
        obtain ⟨rfl, onward⟩ := List.cons.inj rest
        exact .inr (.inl ⟨more, id, onward⟩)
    · cases more with
      | nil => exact .inl (eq_of_tail (id.trans (append_nil _)) (List.cons.inj rest).2.symm)
      | cons c more =>
        obtain ⟨rfl, onward⟩ := List.cons.inj rest
        exact .inr (.inr ⟨more, id, onward⟩)
  · rintro (rfl | ⟨more, id, rest⟩ | ⟨more, id, rest⟩)
    · rfl
    · rw [id, rest, append_assoc, cons_append]
    · rw [id, rest, append_assoc, cons_append]

structure Injective (gateway : Gateway) (secret : String) (hmac : String → String) : Prop where
  signs : ∀ parts : SignedParts, gateway.signOutboundPayload secret parts.deliveryId
    parts.timestamp parts.rawBody = hmac parts.signedText
  injective : ∀ text other : String, hexBytes (hmac text).toList = hexBytes (hmac other).toList →
    text = other

variable {gateway : Gateway} {secret : String} {hmac : String → String}

theorem verifies_iff (signs : Injective gateway secret hmac) {signatureHex : String}
    {parts : SignedParts} : verifies gateway secret signatureHex parts ↔
      hexBytes (hmac parts.signedText).toList = hexBytes signatureHex.toList := by
  unfold verifies Gateway.verifyOutboundSignature
  rw [signs.signs parts, beq_iff_eq]

theorem verifies_both (signs : Injective gateway secret hmac) :
    (∃ signatureHex, verifies gateway secret signatureHex a ∧
      verifies gateway secret signatureHex b) ↔ a.signedText = b.signedText := by
  constructor
  · rintro ⟨signatureHex, first, second⟩
    rw [verifies_iff signs] at first second
    exact signs.injective _ _ (first.trans second.symm)
  · intro same
    exact ⟨hmac a.signedText, (verifies_iff signs).mpr rfl, (verifies_iff signs).mpr (by rw [same])⟩

end SignedParts

open SignedParts

/-- Of two deliveries that the gateway accepts as well formed, no signature verifies for both
unless they are the same, exactly when neither continues the other. -/
theorem signature_binds_iff (gateway : Gateway) (secret : String) (hmac : String → String)
    (signs : SignedParts.Injective gateway secret hmac) (a b : SignedParts)
    (_accepted : a.Accepted ∧ b.Accepted) :
    (∀ signatureHex, verifies gateway secret signatureHex a = true →
        verifies gateway secret signatureHex b = true → a = b) ↔
      ¬ Continues a b ∧ ¬ Continues b a := by
  have both : (∃ signatureHex, verifies gateway secret signatureHex a ∧
      verifies gateway secret signatureHex b) ↔ a = b ∨ Continues a b ∨ Continues b a :=
    (verifies_both signs).trans signedText_eq_iff
  constructor
  · intro binds
    refine ⟨fun continues => ?_, fun continues => ?_⟩
    · obtain ⟨signatureHex, first, second⟩ := both.mpr (.inr (.inl continues))
      exact continues.ne (binds signatureHex first second)
    · obtain ⟨signatureHex, first, second⟩ := both.mpr (.inr (.inr continues))
      exact continues.ne (binds signatureHex first second).symm
  · intro ⟨forward, backward⟩ signatureHex first second
    rcases both.mp ⟨signatureHex, first, second⟩ with same | continues | continues
    · exact same
    · exact absurd continues forward
    · exact absurd continues backward

/-! ## A delivery that goes on -/

def hexPlace (c : Char) (place : Nat) : Char := Nat.digitChar (c.toNat / 16 ^ place % 16)

/-- The code of a letter, in six hexadecimal digits. -/
def hexCode (c : Char) : List Char :=
  [hexPlace c 5, hexPlace c 4, hexPlace c 3, hexPlace c 2, hexPlace c 1, hexPlace c 0]

def hexText (text : String) : String := String.ofList (text.toList.flatMap hexCode)

def hexGateway : Gateway where
  connectorCredentials _ _ := none
  decryptCredential _ _ := none
  signOutboundPayload _ deliveryId timestamp rawBody :=
    hexText (SignedParts.mk deliveryId timestamp rawBody).signedText
  getConnectorDefinition _ := none
  parseJson _ := none
  customIdAllowed := customIdAllowed

theorem digitChar_injective : ∀ n < 16, ∀ m < 16, Nat.digitChar n = Nat.digitChar m → n = m := by
  decide

theorem hexPlace_eq {c d : Char} {place : Nat} (same : hexPlace c place = hexPlace d place) :
    c.toNat / 16 ^ place % 16 = d.toNat / 16 ^ place % 16 :=
  digitChar_injective _ (Nat.mod_lt _ (by decide)) _ (Nat.mod_lt _ (by decide)) same

theorem toNat_lt (c : Char) : c.toNat < 16 ^ 6 := by
  have valid : c.toNat.isValidChar := c.valid
  unfold Nat.isValidChar at valid
  omega

theorem hexBytes_injective {left right : List Char}
    (same : hexBytes (left.flatMap hexCode) = hexBytes (right.flatMap hexCode)) : left = right := by
  induction left generalizing right with
  | nil =>
    cases right with
    | nil => rfl
    | cons d right => cases same
  | cons c left ih =>
    cases right with
    | nil => cases same
    | cons d right =>
      obtain ⟨first, same⟩ := List.cons.inj same
      obtain ⟨second, same⟩ := List.cons.inj same
      obtain ⟨third, same⟩ := List.cons.inj same
      have d5 := hexPlace_eq (Prod.mk.inj first).1
      have d4 := hexPlace_eq (Prod.mk.inj first).2
      have d3 := hexPlace_eq (Prod.mk.inj second).1
      have d2 := hexPlace_eq (Prod.mk.inj second).2
      have d1 := hexPlace_eq (Prod.mk.inj third).1
      have d0 := hexPlace_eq (Prod.mk.inj third).2
      have small := toNat_lt c
      have small' := toNat_lt d
      have letter : c.toNat = d.toNat := by omega
      rw [Char.toNat_inj.mp letter, ih same]

theorem hexGateway_injective (secret : String) :
    SignedParts.Injective hexGateway secret hexText := by
  refine ⟨fun _ => rfl, fun text other same => ?_⟩
  unfold hexText at same
  rw [String.toList_ofList, String.toList_ofList] at same
  exact String.toList_injective (hexBytes_injective same)

def signedOnce : SignedParts := ⟨"a", 1700000000, "1700000001.x"⟩

def replayedAs : SignedParts := ⟨"a.1700000000", 1700000001, "x"⟩

theorem signedOnce_accepted : signedOnce.Accepted :=
  ⟨⟨0, 0, "1700000001.x", some "t=1700000000,v1=ab", some "a"⟩, 1700000000000,
    ⟨0, 0, "a", 1700000000, "1700000001.x", "ab"⟩, by decide, by decide +kernel, rfl⟩

theorem replayedAs_accepted : replayedAs.Accepted :=
  ⟨⟨0, 0, "x", some "t=1700000001,v1=ab", some "a.1700000000"⟩, 1700000000000,
    ⟨0, 0, "a.1700000000", 1700000001, "x", "ab"⟩, by decide, by decide +kernel, rfl⟩

/-- The signature of the one verifies for the other. -/
theorem one_signature_for_two_deliveries :
    signedOnce.Accepted ∧ replayedAs.Accepted ∧ signedOnce ≠ replayedAs ∧
      verifies hexGateway "secret" (hexText signedOnce.signedText) signedOnce = true ∧
      verifies hexGateway "secret" (hexText signedOnce.signedText) replayedAs = true := by
  have same : signedOnce.signedText = replayedAs.signedText := by decide
  refine ⟨signedOnce_accepted, replayedAs_accepted, by decide, ?_, ?_⟩
  · exact (verifies_iff (hexGateway_injective "secret")).mpr rfl
  · exact (verifies_iff (hexGateway_injective "secret")).mpr (by rw [same])

theorem signature_binds_iff_at_two_ids :
    (∀ signatureHex, verifies hexGateway "secret" signatureHex signedOnce = true →
        verifies hexGateway "secret" signatureHex replayedAs = true → signedOnce = replayedAs) ↔
      ¬ Continues signedOnce replayedAs ∧ ¬ Continues replayedAs signedOnce :=
  signature_binds_iff hexGateway "secret" hexText (hexGateway_injective "secret") signedOnce
    replayedAs ⟨signedOnce_accepted, replayedAs_accepted⟩

end OpenWind

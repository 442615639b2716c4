import DiagramBridge.Drawio.Payload
import DiagramBridge.Proofs.Codec.Base64
import DiagramBridge.Proofs.Codec.Deflate
import DiagramBridge.Proofs.Codec.Percent
import DiagramBridge.Proofs.Conversion.Pipeline

/-!
# Payloads there and back

A payload is a stack of codes, and it is read by undoing them from the outside in. White space is
taken out first, and since a text in base 64 has none of its own, all of it may have come in later.
Of the ways to inflate the bytes, the first one is for streams without a container; it answers for
every stream that it can inflate to a text, so the others are not tried.

How the bytes were deflated does not matter: `decode_spaced` is about any stream that inflates to
the percent-encoded text, of which `encode` gives one.
-/

namespace DiagramBridge.Drawio.Payload

open Text Codec

/-- The second text is the first one with white space put in at any places. -/
inductive Spaced : List Char → List Char → Prop where
  | nil : Spaced [] []
  | keep (c : Char) {s t : List Char} (h : Spaced s t) : Spaced (c :: s) (c :: t)
  | blank {c : Char} (hc : isBlank c = true) {s t : List Char} (h : Spaced s t) : Spaced s (c :: t)

theorem Spaced.refl (s : List Char) : Spaced s s := by
  induction s with
  | nil => exact .nil
  | cons c s ih => exact .keep c ih

/-- Taking out all white space gives back a text that had none. -/
theorem Spaced.filter_eq {s t : List Char} (h : Spaced s t) (hs : ∀ c ∈ s, isBlank c = false) :
    t.filter (!isBlank ·) = s := by
  induction h with
  | nil => rfl
  | keep c h ih =>
      have hc : isBlank c = false := hs c (by simp)
      rw [List.filter_cons_of_pos (by simp [hc]), ih fun d hd => hs d (by simp [hd])]
  | blank hc h ih => rw [List.filter_cons_of_neg (by simp [hc]), ih hs]

/-- A text that is the first one without its white space is that one with white space put in. -/
theorem Spaced.of_filter {s t : List Char} (h : t.filter (!isBlank ·) = s) : Spaced s t := by
  induction t generalizing s with
  | nil =>
      rw [← h]
      exact .nil
  | cons c t ih =>
      cases hc : isBlank c with
      | true =>
        rw [List.filter_cons_of_neg (by simp [hc])] at h
        exact .blank hc (ih h)
      | false =>
        rw [List.filter_cons_of_pos (by simp [hc])] at h
        rw [← h]
        exact .keep c (ih rfl)

theorem isBlank_of_mem_base64 {bytes : List UInt8} {c : Char} (h : c ∈ Base64.encode bytes) :
    isBlank c = false := by
  have hall : ∀ c ∈ '=' :: Base64.digits, isBlank c = false := by decide +kernel
  exact hall c (Base64.mem_encode h)

/-- Without a byte there is no stream, so a payload of a stream has characters. -/
theorem base64_ne_nil_of_inflate? {stream : List UInt8} {r : List UInt8 × List UInt8}
    (h : Inflate.inflate? stream = some r) : Base64.encode stream ≠ [] := by
  intro hnil
  have hempty : some stream = some [] := by
    rw [← Base64.decode?_encode stream, hnil]
    rfl
  rw [Option.some.inj hempty] at h
  exact absurd h (by simp [Inflate.inflate?, Inflate.blocks])

/-- The first way to inflate answers when it gives a text. -/
theorem inflatedText?_of_inflate? {stream rest : List UInt8} {s : List Char}
    (h : Inflate.inflate? stream = some (Utf8.encode s, rest)) :
    inflatedText? stream = some s := by
  have hfirst : ((Inflate.inflate? stream).map (·.1)).bind Utf8.decode? = some s := by
    rw [h, Option.map_some, Option.bind_some, Utf8.decode?_encode]
  rw [inflatedText?, inflations, List.findSome?_cons, hfirst]

/-- A payload of any stream that inflates to a percent-encoded text, spaced in any way. -/
theorem decode_spaced {stream rest : List UInt8} {s payload : List Char}
    (hstream : Inflate.inflate? stream = some (Utf8.encode (Percent.encode s), rest))
    (hspaced : Spaced (Base64.encode stream) payload) : decode payload = .ok s := by
  have hcompact : payload.filter (!isBlank ·) = Base64.encode stream :=
    hspaced.filter_eq fun c hc => isBlank_of_mem_base64 hc
  have hne : (Base64.encode stream).isEmpty = false :=
    List.isEmpty_eq_false_iff.2 (base64_ne_nil_of_inflate? hstream)
  rw [decode, hcompact]
  simp only [hne, Bool.false_eq_true, if_false, Base64.decode?_encode,
    inflatedText?_of_inflate? hstream, Percent.decode_encode]

theorem inflate?_encoded (s : List Char) :
    Inflate.inflate? (Deflate.deflate (Utf8.encode (Percent.encode s))) =
      some (Utf8.encode (Percent.encode s), []) := by
  have h := Deflate.inflate?_deflate (Utf8.encode (Percent.encode s)) []
  rwa [List.append_nil] at h

/-- The encoded text in the data of a drawing is its markup, percent-encoded. -/
theorem encoded_toDrawingData {m : LooseText} {d : DrawingData}
    (h : m.toDrawingData.result = .ok d) : d.encoded = onChars Percent.encode d.drawing := by
  rw [LooseText.toDrawingData, Report.result_bind_eq_ok_iff] at h
  obtain ⟨drawing, -, hd⟩ := h
  rw [← Except.ok.inj hd]
  rfl

/-- Every text comes back from its payload, however it is spaced; so it does from the payload of any
other stream that inflates to it. And the encoded text of a converted drawing decodes to the
drawing, also when the Mermaid text had loose halves. -/
theorem decode_spaced_encode :
    (∀ s : List Char, decode (encode s) = .ok s) ∧
    (∀ s payload : List Char, Spaced (encode s) payload → decode payload = .ok s) ∧
    (∀ (stream rest : List UInt8) (s payload : List Char),
      Inflate.inflate? stream = some (Utf8.encode (Percent.encode s), rest) →
      Spaced (Base64.encode stream) payload → decode payload = .ok s) ∧
    ∀ (m : LooseText) (d : DrawingData), m.toDrawingData.result = .ok d →
      Percent.decode d.encoded.toList = d.drawing.toList := by
  constructor
  · intro s
    exact decode_spaced (inflate?_encoded s) (Spaced.refl _)
  constructor
  · intro s payload h
    exact decode_spaced (inflate?_encoded s) h
  constructor
  · intro stream rest s payload hstream h
    exact decode_spaced hstream h
  · intro m d h
    rw [encoded_toDrawingData h, toList_onChars, Percent.decode_encode]

/-- A text with a percent sign and an astral character, and a stream that refers back. -/
theorem decode_spaced_encode_faces :
    decode "ARwA4/81MCUyNTI1\n JTIwJUMzJUE5\u00a0JUYwJTlGJTk4JTgw\n".toList =
        .ok "50%25 é😀".toList ∧
      decode " U3UzULV0U7W0\u3000ULUwUEViAwA=".toList = .ok "😀😀".toList ∧
      ∃ d, (LooseText.ofString "flowchart TD\nA-->B").toDrawingData.result = .ok d ∧
        Percent.decode d.encoded.toList = d.drawing.toList := by
  have hown : Spaced (encode "50%25 é😀".toList)
      "ARwA4/81MCUyNTI1\n JTIwJUMzJUE5\u00a0JUYwJTlGJTk4JTgw\n".toList :=
    .of_filter (by decide +kernel)
  have hother : Spaced
      (Base64.encode [83, 117, 51, 80, 181, 116, 83, 181, 180, 80, 181, 48, 80, 69, 98, 3, 0])
      " U3UzULV0U7W0\u3000ULUwUEViAwA=".toList :=
    .of_filter (by decide +kernel)
  have hstream :
      Inflate.inflate? [83, 117, 51, 80, 181, 116, 83, 181, 180, 80, 181, 48, 80, 69, 98, 3, 0] =
        some (Utf8.encode (Percent.encode "😀😀".toList), []) := by
    decide +kernel
  obtain ⟨diagram, hread⟩ : ∃ diagram, Mermaid.read "flowchart TD\nA-->B" = .ok diagram :=
    ⟨_, rfl⟩
  obtain ⟨-, hspaced, hinflated, hencoded⟩ := decode_spaced_encode
  have hdata := result_toDrawingData (result_toDrawing hread false)
  rw [← LooseText.toDrawingData_ofString] at hdata
  exact ⟨hspaced _ _ hown, hinflated _ _ _ _ hstream hother, _, hdata, hencoded _ _ hdata⟩

end DiagramBridge.Drawio.Payload

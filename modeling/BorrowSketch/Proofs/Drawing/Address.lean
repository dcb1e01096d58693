import BorrowSketch.Drawing.Svg
import BorrowSketch.Proofs.Text.Base64

/-! # Addresses that contain images

An image is handed to an editor as an address. Whoever has the address needs nothing else: the
markup is in it, byte by byte, whatever characters its texts are made of.

* **`Drawing.IsAddressOf`** — an address that contains a text.
* **`Svg.utf8Bytes_eq`** — the bytes that are written are those of the text in UTF-8.
* **`Svg.isAddressOf_uri`** — the address of an image contains its markup.
* **`Svg.contents_of_uri`** — what an address contains. -/

namespace BorrowSketch.Drawing

open Text

/-- **An address that contains a text.** Behind the scheme stands base64 that is decoded to the
bytes of the text in UTF-8. -/
def IsAddressOf (address content : String) : Prop :=
  ∃ payload, address = "data:image/svg+xml;base64," ++ payload ∧
    Base64.decode? payload.toList = some content.toUTF8.data.toList

namespace Svg

/-- The bytes of a text, character by character, are those of the whole text. -/
theorem utf8Bytes_eq (text : String) : utf8Bytes text = text.toUTF8.data.toList := by
  have hbytes : text.toUTF8 = text.toList.utf8Encode := by
    rw [String.toUTF8_eq_toByteArray, ← String.toByteArray_ofList, String.ofList_toList]
  rw [hbytes, List.utf8Encode, List.toList_data_toByteArray, utf8Bytes]

/-- Texts with the same bytes are the same. -/
theorem utf8Bytes_inj {text other : String} : utf8Bytes text = utf8Bytes other ↔ text = other := by
  refine ⟨fun h => ?_, congrArg utf8Bytes⟩
  rw [utf8Bytes_eq, utf8Bytes_eq] at h
  exact String.toByteArray_inj.1 (ByteArray.ext (Array.toList_inj.1 h))

/-- Behind the scheme stands the markup in base64. -/
theorem exists_uri_eq (svg : Svg) :
    ∃ digits padding,
      svg.uri = "data:image/svg+xml;base64,"
        ++ String.ofList (digits ++ List.replicate padding '=') ∧
      Base64.Fills svg.markup.toUTF8.data.toList digits padding ∧
      Base64.decode? (digits ++ List.replicate padding '=') =
        some svg.markup.toUTF8.data.toList := by
  obtain ⟨digits, padding, htext, hfills⟩ := Base64.isTextOf_encode (utf8Bytes svg.markup)
  rw [← utf8Bytes_eq]
  refine ⟨digits, padding, ?_, hfills, ?_⟩
  · rw [uri, htext]
    rfl
  · exact Base64.decode?_eq_some_iff.2 ⟨digits, padding, rfl, hfills⟩

/-- **The address of an image contains its markup.** -/
theorem isAddressOf_uri (svg : Svg) : IsAddressOf svg.uri svg.markup := by
  obtain ⟨digits, padding, huri, -, hdecode⟩ := svg.exists_uri_eq
  refine ⟨_, huri, ?_⟩
  rw [String.toList_ofList]
  exact hdecode

/-- **What an address contains.** Behind the scheme stand characters of the base64 alphabet, with
padding at the end only, in whole groups of four. Their bits are those of the markup in UTF-8, and
this is what is decoded from them. So two images have the same address exactly if they have the same
markup. -/
theorem contents_of_uri (svg : Svg) :
    (∃ digits padding,
      svg.uri = "data:image/svg+xml;base64,"
        ++ String.ofList (digits ++ List.replicate padding '=') ∧
      Base64.Fills svg.markup.toUTF8.data.toList digits padding ∧
      Base64.decode? (digits ++ List.replicate padding '=') =
        some svg.markup.toUTF8.data.toList) ∧
    ∀ other : Svg, svg.uri = other.uri ↔ svg.markup = other.markup := by
  refine ⟨svg.exists_uri_eq, fun other => ⟨fun h => ?_, fun h => by rw [uri, uri, h]⟩⟩
  -- behind the scheme, which is the same, the encoded bytes are the same
  have htexts : Base64.encode (utf8Bytes svg.markup) = Base64.encode (utf8Bytes other.markup) := by
    have hchars := congrArg String.toList h
    simpa [uri] using hchars
  have hbytes := congrArg Base64.decode? htexts
  rw [Base64.decode?_encode, Base64.decode?_encode, Option.some.injEq] at hbytes
  exact utf8Bytes_inj.1 hbytes

end Svg
end BorrowSketch.Drawing

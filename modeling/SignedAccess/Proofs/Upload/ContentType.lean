/-
# Signed content types

A content type is accepted without blanks around it, control characters and double
spaces, and what is signed is its collapse. The two notions of a blank differ: the
check looks for spaces and for ASCII control characters, collapsing replaces every
blank of Unicode. So an accepted content type is signed as it is exactly when all
its blanks are spaces, and two accepted ones that differ in other blanks alone
share one signature.
-/

import SignedAccess.Proofs.Text.Spacing
import SignedAccess.Proofs.Upload.HeadOfBucket

namespace SignedAccess

open Text Time

/-! ### What the check says about blanks -/

theorem keepsApart_of_hasDoubleSpace {cs : List Char} (hsingle : hasDoubleSpace cs = false) :
    KeepsApart (· == ' ') cs := by
  induction cs with
  | nil => exact .nil
  | cons c rest ih =>
      cases rest with
      | nil => exact .singleton c
      | cons d more =>
          by_cases hc : c = ' '
          · by_cases hd : d = ' '
            · rw [hc, hd, hasDoubleSpace] at hsingle
              cases hsingle
            · have hrest : hasDoubleSpace (d :: more) = false := by
                simpa [hasDoubleSpace, hc, hd] using hsingle
              exact List.isChain_cons_cons.2 ⟨Or.inr (beq_false_of_ne hd), ih hrest⟩
          · have hrest : hasDoubleSpace (d :: more) = false := by
              simpa [hasDoubleSpace, hc] using hsingle
            exact List.isChain_cons_cons.2 ⟨Or.inl (beq_false_of_ne hc), ih hrest⟩

/-- An accepted content type has no blanks at its ends and no double spaces. -/
theorem of_checkContentType {value : String} (haccepted : checkContentType value = .ok ()) :
    trim value.toList = value.toList ∧ KeepsApart (· == ' ') value.toList := by
  have hvalue : isContentType value.toList = true := by
    unfold checkContentType at haccepted
    split at haccepted
    · assumption
    · cases haccepted
  simp only [isContentType, Bool.and_eq_true, Bool.not_eq_true', beq_iff_eq] at hvalue
  exact ⟨hvalue.1.1.1, keepsApart_of_hasDoubleSpace hvalue.1.2⟩

theorem collapse_eq_self_of_checkContentType {value : String}
    (haccepted : checkContentType value = .ok ()) :
    collapse value.toList = value.toList ↔ IsPlainlySpaced value.toList := by
  obtain ⟨htrim, hapart⟩ := of_checkContentType haccepted
  exact collapse_eq_self_iff htrim hapart

/-! ### What is signed of a content type -/

namespace Storage

variable (storage : Storage) (request : UploadRequest) (now : Instant)

/-- The header that an upload is sent with is signed as it is exactly when its
value is its own collapse. -/
theorem mem_signedHeaders_iff (host : List Char) :
    ("content-type".toList, request.contentType.toList) ∈
        (storage.uploadOrder request now).signedHeaders host ↔
      collapse request.contentType.toList = request.contentType.toList := by
  have hname : "content-type".toList ≠ "host".toList := by decide
  rw [signedHeaders_uploadOrder, List.mem_cons, List.mem_singleton, Prod.mk.injEq, Prod.mk.injEq]
  constructor
  · rintro (⟨-, hvalue⟩ | ⟨hhost, -⟩)
    · exact hvalue.symm
    · exact absurd hhost hname
  · intro hvalue
    exact Or.inl ⟨rfl, hvalue.symm⟩

theorem headerLines_uploadOrder (host : List Char) :
    (storage.uploadOrder request now).headerLines host =
      "content-type:".toList ++ (collapse request.contentType.toList ++
        "\nhost:".toList ++ host ++ ['\n']) := by
  have hname : "content-type:".toList = "content-type".toList ++ [':'] := by decide
  have hhost : "\nhost:".toList = '\n' :: ("host".toList ++ [':']) := by decide
  rw [SigningOrder.headerLines, signedHeaders_uploadOrder, hname, hhost]
  simp

/-- Uploads that differ in the content type alone have the same canonical request
exactly when the content types have the same collapse. -/
theorem canonicalRequest_eq_iff (contentType accessKey : String) (host : List Char) :
    (storage.uploadOrder request now).canonicalRequest accessKey host =
        (storage.uploadOrder { request with contentType } now).canonicalRequest accessKey host ↔
      collapse request.contentType.toList = collapse contentType.toList := by
  have hnames : (storage.uploadOrder request now).headerNames host =
      (storage.uploadOrder { request with contentType } now).headerNames host := by
    simp only [SigningOrder.headerNames, signedHeaders_uploadOrder, List.map_cons, List.map_nil]
  have hquery : (storage.uploadOrder request now).query accessKey host =
      (storage.uploadOrder { request with contentType } now).query accessKey host := by
    simp only [SigningOrder.query, SigningOrder.queryPairs, hnames]
    rfl
  constructor
  · intro heq
    rw [SigningOrder.canonicalRequest, SigningOrder.canonicalRequest, hnames, hquery,
      headerLines_uploadOrder, headerLines_uploadOrder] at heq
    simpa [List.intercalate, List.intersperse, uploadOrder] using heq
  · intro heq
    rw [SigningOrder.canonicalRequest, SigningOrder.canonicalRequest, hnames, hquery,
      headerLines_uploadOrder, headerLines_uploadOrder, heq]
    rfl

end Storage

/-! ### Accepted content types -/

/-- An accepted content type is signed as it is, and so an upload sent with it has
the signed header, exactly when all its blanks are spaces. Uploads that differ in
accepted content types alone share a canonical request exactly when the content
types have the same words; where all blanks are spaces, these are equal. -/
theorem signed_as_is_iff_plainly_spaced (storage : Storage) (request : UploadRequest)
    (contentType accessKey : String) (now : Instant) (host : List Char)
    (haccepted : checkContentType request.contentType = .ok ())
    (hother : checkContentType contentType = .ok ()) :
    let value := request.contentType.toList
    let order := storage.uploadOrder request now
    let otherOrder := storage.uploadOrder { request with contentType } now
    let isShared :=
      order.canonicalRequest accessKey host = otherOrder.canonicalRequest accessKey host
    (collapse value = value ↔ IsPlainlySpaced value) ∧
      (("content-type".toList, value) ∈ order.signedHeaders host ↔ IsPlainlySpaced value) ∧
      (isShared ↔ words value = words contentType.toList) ∧
      (IsPlainlySpaced value → IsPlainlySpaced contentType.toList →
        (isShared ↔ request.contentType = contentType)) := by
  intro value order otherOrder isShared
  have hvalue := collapse_eq_self_of_checkContentType haccepted
  have hshared : isShared ↔ collapse value = collapse contentType.toList :=
    storage.canonicalRequest_eq_iff request now contentType accessKey host
  refine ⟨hvalue, ?_, ?_, ?_⟩
  · exact (storage.mem_signedHeaders_iff request now host).trans hvalue
  · exact hshared.trans collapse_eq_iff
  · intro hplain hotherPlain
    rw [hshared, hvalue.2 hplain, (collapse_eq_self_of_checkContentType hother).2 hotherPlain]
    exact String.toList_inj

/-- A content type with a parameter after a space is signed as it is and shares
its canonical request with no other one of that kind. -/
theorem signed_as_is_with_parameter :
    let request : UploadRequest := ⟨"marketplace", "notes.txt", "text/plain; charset=utf-8", 60⟩
    let other : UploadRequest := { request with contentType := "text/plain; charset=utf-16" }
    let order := loopback.uploadOrder request leapBeforeYearZero
    let otherOrder := loopback.uploadOrder other leapBeforeYearZero
    (checkContentType request.contentType = .ok () ∧ checkContentType other.contentType = .ok ()) ∧
      ("content-type".toList, request.contentType.toList) ∈ order.signedHeaders [] ∧
      order.canonicalRequest "" [] ≠ otherOrder.canonicalRequest "" [] := by
  intro request other order otherOrder
  have haccepted : checkContentType request.contentType = .ok () := by decide +kernel
  have hother : checkContentType other.contentType = .ok () := by decide +kernel
  have hplain : IsPlainlySpaced request.contentType.toList := forall_mem_of_all (by decide +kernel)
  have hotherPlain : IsPlainlySpaced other.contentType.toList :=
    forall_mem_of_all (by decide +kernel)
  obtain ⟨-, hsigned, -, hshared⟩ := signed_as_is_iff_plainly_spaced loopback request
    other.contentType "" leapBeforeYearZero [] haccepted hother
  refine ⟨⟨haccepted, hother⟩, hsigned.2 hplain, ?_⟩
  intro hsame
  exact absurd ((hshared hplain hotherPlain).1 hsame) (by decide)

/-- A no-break space is accepted before a parameter and signed as a space: the
header that an upload is sent with is not the signed one, and another accepted
content type has the same canonical request. -/
theorem no_break_space_is_signed_as_space :
    let request : UploadRequest :=
      ⟨"marketplace", "notes.txt", "text/plain;\u00a0charset=utf-8", 60⟩
    let other : UploadRequest := { request with contentType := "text/plain; charset=utf-8" }
    let order := loopback.uploadOrder request leapBeforeYearZero
    let otherOrder := loopback.uploadOrder other leapBeforeYearZero
    checkContentType request.contentType = .ok () ∧ checkContentType other.contentType = .ok () ∧
      request.contentType ≠ other.contentType ∧
      collapse request.contentType.toList ≠ request.contentType.toList ∧
      ("content-type".toList, request.contentType.toList) ∉ order.signedHeaders [] ∧
      order.canonicalRequest "" [] = otherOrder.canonicalRequest "" [] := by
  intro request other order otherOrder
  have hchanged : collapse request.contentType.toList ≠ request.contentType.toList := by
    decide +kernel
  have hshared : collapse request.contentType.toList = collapse other.contentType.toList := by
    decide +kernel
  refine ⟨by decide +kernel, by decide +kernel, by decide, hchanged, ?_, ?_⟩
  · rw [loopback.mem_signedHeaders_iff request leapBeforeYearZero []]
    exact hchanged
  · exact (loopback.canonicalRequest_eq_iff request leapBeforeYearZero other.contentType "" []).2
      hshared

end SignedAccess

import LiveEvents.Http.Fetch
import LiveEvents.Proofs.ReadableBytes
import Mathlib.Data.Nat.Find

/-!
# Bodies of errors

A body that is too long for an error is cut at the last place between characters that its limit
allows. The way back to that place is three bytes at most, for no character has more than four, and
it never leaves the text, for a text begins between characters.
-/

namespace LiveEvents

namespace Text.Utf8

variable {text kept kept' : String} {limit byte : Nat} {boundary : text.Pos}

/-! ## The way back -/

/-- The way back ends at the greatest place between characters. -/
theorem byteIdx_of_boundaryFrom? (h : boundaryFrom? text byte = some boundary) :
    boundary.offset.byteIdx = Nat.findGreatest (fun i => String.Pos.Raw.IsValid text ⟨i⟩) byte := by
  induction byte with
  -- The start is a place between characters, so it is no mere default of the search here.
  | zero =>
    rw [boundaryFrom?_of_isValid String.Pos.Raw.isValid_zero] at h
    cases h
    rfl
  | succ byte ih =>
    by_cases hvalid : String.Pos.Raw.IsValid text ⟨byte + 1⟩
    · rw [boundaryFrom?_of_isValid hvalid] at h
      cases h
      exact (Nat.findGreatest_eq hvalid).symm
    · rw [boundaryFrom?_succ_of_not_isValid hvalid] at h
      rw [ih h, Nat.findGreatest_of_not hvalid]

theorem boundary_le (h : boundaryFrom? text byte = some boundary) :
    boundary.offset.byteIdx ≤ byte :=
  byteIdx_of_boundaryFrom? h ▸ Nat.findGreatest_le byte

theorem le_boundary (h : boundaryFrom? text byte = some boundary) {i : Nat} (hi : i ≤ byte)
    (hvalid : String.Pos.Raw.IsValid text ⟨i⟩) : i ≤ boundary.offset.byteIdx :=
  byteIdx_of_boundaryFrom? h ▸ Nat.le_findGreatest hi hvalid

/-- The next place between characters is four bytes on at most, so one that is further back than
three bytes would have been passed over. -/
theorem le_boundary_add_three (h : boundaryFrom? text byte = some boundary)
    (hbyte : byte ≤ text.utf8ByteSize) : byte ≤ boundary.offset.byteIdx + 3 := by
  by_cases hend : boundary = text.endPos
  · subst hend
    exact Nat.le_trans hbyte (Nat.le_add_right _ 3)
  · have hnext := String.Pos.byteIdx_offset_next boundary hend
    have hpos := Char.utf8Size_pos (boundary.get hend)
    have hfour := Char.utf8Size_le_four (boundary.get hend)
    by_contra hfar
    have hwithin : (boundary.next hend).offset.byteIdx ≤ byte := by omega
    have hback := le_boundary h hwithin (boundary.next hend).isValid
    omega

/-! ## What is kept of a text -/

/-- A start of a text that ends between characters within a limit, with no other place between
characters from its end up to the limit. -/
structure LongestStart (limit : Nat) (text kept : String) : Prop where
  begins : ∃ rest, text = kept ++ rest
  ends : String.Pos.Raw.IsValid text ⟨kept.utf8ByteSize⟩
  fits : kept.utf8ByteSize ≤ limit
  longest : ∀ byte ≤ limit, String.Pos.Raw.IsValid text ⟨byte⟩ → byte ≤ kept.utf8ByteSize

theorem LongestStart.unique (h : LongestStart limit text kept)
    (h' : LongestStart limit text kept') : kept = kept' := by
  obtain ⟨rest, hrest⟩ := h.begins
  obtain ⟨rest', hrest'⟩ := h'.begins
  have hsize : kept.utf8ByteSize = kept'.utf8ByteSize :=
    Nat.le_antisymm (h'.longest _ h.fits h.ends) (h.longest _ h'.fits h'.ends)
  have hsplits : (⟨_, h.ends⟩ : text.Pos).Splits kept rest := ⟨hrest, rfl⟩
  have hsplits' : (⟨_, h.ends⟩ : text.Pos).Splits kept' rest' :=
    ⟨hrest', congrArg String.Pos.Raw.mk hsize⟩
  exact hsplits.eq_left hsplits'

theorem longestStart_self_iff : LongestStart limit text text ↔ text.utf8ByteSize ≤ limit where
  mp h := h.fits
  mpr h := ⟨⟨"", String.append_empty.symm⟩, String.Pos.Raw.isValid_rawEndPos, h,
    fun _ _ hvalid => hvalid.le_utf8ByteSize⟩

/-- A start is the longest one if the character after it no longer fits. -/
theorem longestStart_append {c : Char} {rest : String} (hfits : kept.utf8ByteSize ≤ limit)
    (hlimit : limit < kept.utf8ByteSize + c.utf8Size) :
    LongestStart limit (kept ++ (String.singleton c ++ rest)) kept := by
  have hends : String.Pos.Raw.IsValid (kept ++ (String.singleton c ++ rest)) ⟨kept.utf8ByteSize⟩ :=
    String.Pos.Raw.isValid_iff_exists_append.mpr ⟨kept, _, rfl, rfl⟩
  have hsplits : String.Pos.Splits ⟨_, hends⟩ kept (String.singleton c ++ rest) := ⟨rfl, rfl⟩
  refine ⟨⟨_, rfl⟩, hends, hfits, fun byte hbyte hvalid => ?_⟩
  by_contra hbeyond
  have hnext : (kept ++ String.singleton c).utf8ByteSize ≤ byte := by
    rw [← String.byteIdx_rawEndPos, ← hsplits.next.offset_eq_rawEndPos]
    exact @String.Pos.next_le_of_lt _ _ ⟨⟨byte⟩, hvalid⟩ hsplits.ne_endPos_of_singleton
      (Nat.lt_of_not_le hbeyond)
  rw [String.utf8ByteSize_append, String.utf8ByteSize_singleton] at hnext
  omega

theorem longestStart_of_boundaryFrom? (h : boundaryFrom? text limit = some boundary) :
    LongestStart limit text (text.sliceTo boundary).copy := by
  have hsize : boundary.offset.byteIdx = (text.sliceTo boundary).copy.utf8ByteSize :=
    congrArg String.Pos.Raw.byteIdx boundary.splits.offset_eq_rawEndPos
  exact {
    begins := ⟨_, boundary.splits.eq_append⟩
    ends := hsize ▸ boundary.isValid
    fits := hsize ▸ boundary_le h
    longest := fun _ hbyte hvalid => hsize ▸ le_boundary h hbyte hvalid }

theorem longestStart_of_cut? (h : cut? limit text = some kept) : LongestStart limit text kept := by
  unfold cut? at h
  split at h
  · obtain ⟨boundary, hboundary, rfl⟩ := Option.map_eq_some_iff.mp h
    exact longestStart_of_boundaryFrom? hboundary
  · next hfits =>
    cases h
    exact longestStart_self_iff.mpr (Nat.le_of_not_lt hfits)

theorem cut?_eq_some_cut (limit : Nat) (text : String) :
    cut? limit text = some (cut limit text) :=
  (Option.some_get (isSome_cut? limit text)).symm

theorem longestStart_cut (limit : Nat) (text : String) : LongestStart limit text (cut limit text) :=
  longestStart_of_cut? (cut?_eq_some_cut limit text)

theorem cut_eq_self_iff : cut limit text = text ↔ text.utf8ByteSize ≤ limit := by
  rw [← longestStart_self_iff]
  constructor
  · intro h
    have hcut := longestStart_cut limit text
    rwa [h] at hcut
  · exact (longestStart_cut limit text).unique

end Text.Utf8

namespace Http

open Text.Utf8

theorem Response.text_encode (status : Status) (body : String) :
    Response.text ⟨status, encode body⟩ = body := by
  rw [Response.text, lossy_encode, String.ofList_toList]

section Told

variable {α : Type} {decode : Json.Node → Option α} {r : Response} {status : Status}
  {shown : String}

theorem Response.document_eq_status_iff : r.document = .error (.status status shown) ↔
    r.status.isSuccess = false ∧ status = r.status ∧ shown = errorBody r.text := by
  unfold Response.document
  cases r.status.isSuccess with
  | false => simp [eq_comm]
  | true => cases Json.Node.ofSegments? (segments r.body) <;> simp

/-- Whether a response is told with its status does not depend on what was to be read. -/
theorem receive_eq_status_iff : receive decode (.ok r) = .error (.status status shown) ↔
    r.document = .error (.status status shown) := by
  cases hdocument : r.document with
  | error e => simp [receive, Response.read, hdocument, bind, Except.bind]
  | ok node =>
    cases hdecode : decode node <;>
      simp [receive, Response.read, hdocument, hdecode, bind, Except.bind, pure, Except.pure,
        throw, throwThe, MonadExceptOf.throw]

end Told

/-- Of any body the longest start of at most 512 bytes that ends between characters is kept, which
is all of it if it has no more. The way back to where it is cut always ends within the text, after
three bytes at most. Every text is the body of some response with any status, and a response is told
with its status exactly if it is without success, then with what is kept of its body. -/
theorem error_body_longest (body : String) :
    (∃ boundary, boundaryFrom? body 512 = some boundary ∧
      (512 ≤ body.utf8ByteSize → 509 ≤ boundary.offset.byteIdx)) ∧
    ∃ kept, cut? 512 body = some kept ∧ LongestStart 512 body kept ∧
      (kept = body ↔ body.utf8ByteSize ≤ 512) ∧
      (∀ status, Response.text ⟨status, encode body⟩ = body) ∧
      ∀ (α : Type) (decode : Json.Node → Option α) (r : Response), r.text = body →
        ∀ status shown, receive decode (.ok r) = .error (.status status shown) ↔
          r.status.isSuccess = false ∧ status = r.status ∧ shown = kept := by
  constructor
  · obtain ⟨boundary, hboundary⟩ := Option.isSome_iff_exists.mp (isSome_boundaryFrom? body 512)
    refine ⟨boundary, hboundary, fun hlong => ?_⟩
    have hnear := le_boundary_add_three hboundary hlong
    omega
  · refine ⟨cut 512 body, cut?_eq_some_cut 512 body, longestStart_cut 512 body, cut_eq_self_iff,
      fun status => Response.text_encode status body, ?_⟩
    rintro α decode r rfl status shown
    exact receive_eq_status_iff.trans Response.document_eq_status_iff

/-- A letter and 127 faces of four bytes each. -/
def faces : String := String.ofList ('a' :: List.replicate 127 '😀')

/-- One more face has its first three bytes within the limit and is left out as a whole. -/
theorem last_face_cut :
    let r : Response := ⟨.notFound, encode (faces ++ "😀")⟩
    faces.utf8ByteSize = 509 ∧ r.text = faces ++ "😀" ∧ r.status.isSuccess = false ∧
      receive some (.ok r) = .error (.status .notFound faces) ∧
      512 ≤ (faces ++ "😀").utf8ByteSize ∧
      ∃ boundary, boundaryFrom? (faces ++ "😀") 512 = some boundary ∧
        509 ≤ boundary.offset.byteIdx := by
  intro r
  obtain ⟨⟨boundary, hboundary, hnear⟩, kept, -, hlongest, -, htext, htold⟩ :=
    error_body_longest (faces ++ "😀")
  have hfailed : Status.notFound.isSuccess = false := by decide
  have hsize : faces.utf8ByteSize = 509 := by decide +kernel
  have hface : '😀'.utf8Size = 4 := by decide
  have hcut : LongestStart 512 (faces ++ (String.singleton '😀' ++ "")) faces :=
    longestStart_append (by omega) (by omega)
  have hkept : kept = faces := hlongest.unique hcut
  have hlong : 512 ≤ (faces ++ "😀").utf8ByteSize := by
    have hlast : ("😀" : String).utf8ByteSize = 4 := by decide
    rw [String.utf8ByteSize_append]
    omega
  exact ⟨hsize, htext .notFound, hfailed,
    (htold _ some r (htext .notFound) .notFound faces).mpr ⟨hfailed, rfl, hkept.symm⟩, hlong,
    boundary, hboundary, hnear hlong⟩

end Http

end LiveEvents

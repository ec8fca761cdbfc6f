/-
# Gazetteer.Proofs.Dataset.CutShort -- a dataset that is cut short is not loaded

A file may be cut by a full disk or a connection that broke. The text of a dataset is one object,
so that no beginning of it is complete, and loading tells that the text ended. A compressed file is
read up to its trailer before the object counts as read: where it is cut, and also where only its
trailer is wrong, it is the failure to read that is told, even though the whole text may have come
before it.

This is said of the files of one dataset, whatever it is; it need not have been loaded, nor be in
normal form.
-/
import Gazetteer.Proofs.Dataset.EveryWay
import Gazetteer.Proofs.Gzip.CutShort
import Gazetteer.Proofs.Json.CutShort

namespace Gazetteer

open scoped Powers

open Json (Spells)

namespace Dataset

/-- The whole text of a dataset can be read. -/
theorem ofStream_whole {d : Dataset} {t : Text} (ht : Spells (Dataset.form.toJson d) t)
    (filter : Document.Filter) (fault : Json.Fault) :
    ofStream (.ofBytes (Text.utf8 t)) filter ≠ .error (.unreadable fault) := by
  rw [← Dataset.toJson_document] at ht
  rw [Dataset.ofStream_toJson d.document ht, ofDocument]
  split <;> simp

/-- A stream that ends before the text of a dataset does, or breaks off behind it, is not loaded. -/
theorem ofStream_cut {d : Dataset} {t : Text} (ht : Spells (Dataset.form.toJson d) t)
    {s : Storage.Stream} (hbytes : s.bytes <+: Text.utf8 t)
    (hshort : s.bytes = Text.utf8 t → s.ending ≠ .complete) (filter : Document.Filter) :
    ofStream s filter = .error (.unreadable (.atEnd s.ending)) := by
  have hsound : Document.form.shape.isSound = true := by decide
  have hfree : Document.form.shape.isCountFree = true := by decide
  rw [← Dataset.toJson_document] at ht
  have hdecode := Json.Form.decode_cut (w := []) hsound hfree ht Json.isSpace_nil hbytes hshort
  rw [ofStream, hdecode]

/-- A stream that breaks off within the text of a dataset, or behind it, is not loaded. -/
theorem ofStream_broken {d : Dataset} {t : Text} (ht : Spells (Dataset.form.toJson d) t)
    {bytes : List UInt8} (hbytes : bytes <+: Text.utf8 t) (failure : Storage.ReadFailure)
    (filter : Document.Filter) :
    ofStream (.broken bytes failure) filter = .error (.unreadable (.unreadable failure)) := by
  refine ofStream_cut ht (s := .broken bytes failure) hbytes (fun _ hcomplete => ?_) filter
  cases hcomplete

/-- **A dataset that is cut short is not loaded.** From a file that holds a beginning of its text,
loading fails because the text ended. From a compressed file that is cut, or whose trailer is
another, loading fails because the file could not be read. A whole file fails for neither reason. -/
theorem ofOpened_cutShort (d : Dataset) (filter : Document.Filter) :
    let t := Text.utf8 (Dataset.form.toJson d).compact
    (∀ plain, Storage.isCompressed plain = false → ∀ cut, cut <+: t →
      (ofOpened plain (.ok (.file cut)) filter = .error (.unreadable .truncated) ↔ cut ≠ t))
    ∧ ∀ compressed, Storage.isCompressed compressed = true → ∀ m : Gzip.Member, m.content = t →
      (∀ cut, cut <+: m.written →
        ((∃ failure, ofOpened compressed (.ok (.file cut)) filter
          = .error (.unreadable (.unreadable failure))) ↔ cut ≠ m.written))
      ∧ ∀ trailer, trailer.length = 8 →
        (ofOpened compressed (.ok (.file (m.header.written ++ m.data ++ trailer))) filter
          = .error (.unreadable (.unreadable .badChecksum)) ↔ trailer ≠ m.trailer) := by
  intro t
  have ht : Spells (Dataset.form.toJson d) (Dataset.form.toJson d).compact :=
    Json.spells_compact _
  refine ⟨fun plain hplain cut hcut => ?_, fun compressed hcompressed m hm => ?_⟩
  · rw [ofOpened, Storage.Opened.stream_plain hplain]
    constructor
    · rintro htruncated rfl
      exact ofStream_whole ht filter _ htruncated
    · intro hne
      exact ofStream_cut ht (s := .ofBytes cut) hcut (fun heq => absurd heq hne) filter
  have hwhole : ∀ fault,
      ofOpened compressed (.ok (.file m.written)) filter ≠ .error (.unreadable fault) := by
    intro fault
    rw [ofOpened, Storage.Opened.stream_member hcompressed, hm]
    exact ofStream_whole ht filter fault
  refine ⟨fun cut hcut => ⟨?_, fun hne => ?_⟩, fun trailer hlength => ⟨?_, fun hne => ?_⟩⟩
  · rintro ⟨failure, hfailed⟩ rfl
    exact hwhole _ hfailed
  · obtain ⟨content, failure, hcontent, hread⟩ := m.decompress_cut hcut hne
    rw [hm] at hcontent
    refine ⟨failure, ?_⟩
    rw [ofOpened, Storage.Opened.stream, if_pos hcompressed, hread]
    exact ofStream_broken ht hcontent failure filter
  · rintro hfailed rfl
    exact hwhole _ hfailed
  · have hcontent : m.content <+: t := hm ▸ List.prefix_rfl
    rw [ofOpened, Storage.Opened.stream, if_pos hcompressed, m.decompress_changed hlength hne]
    exact ofStream_broken ht hcontent .badChecksum filter

/-- A dataset of one country: its text without the last brace, and a compressed file of two blocks
without its last byte and with a trailer of zeros. -/
theorem ofOpened_cutShort_lastByte :
    let country : Country := { alpha2 := "CH", alpha3 := "CHE", name := "Zürich" }
    let d : Dataset := { countries := [country], languages := [], groups := [] }
    let t := Text.utf8 (Dataset.form.toJson d).compact
    let header : Gzip.Header :=
      { isText := false, time := 0, compression := 0, system := 255, extra := none,
        name := none, comment := none, isChecked := false,
        extra_size := by simp, zero_notMem_name := by simp, zero_notMem_comment := by simp }
    let m : Gzip.Member :=
      { header := header
        earlier := [.plain 0 (t.take 40) (by rw [List.length_take]; omega)]
        last := .literals (t.drop 40), filler := 0 }
    let zeros := List.replicate 8 0
    m.content = t
      ∧ ofOpened "a.json" (.ok (.file t.dropLast)) none = .error (.unreadable .truncated)
      ∧ (∃ failure, ofOpened "a.json.gz" (.ok (.file m.written.dropLast)) none
        = .error (.unreadable (.unreadable failure)))
      ∧ ofOpened "a.json.gz" (.ok (.file (m.header.written ++ m.data ++ zeros))) none
        = .error (.unreadable (.unreadable .badChecksum)) := by
  intro country d t header m zeros
  have hm : m.content = t := by
    simp only [Gzip.Member.content, m, List.cons_append, List.nil_append, List.flatMap_cons,
      List.flatMap_nil, List.append_nil, Gzip.Block.bytes, List.take_append_drop]
  have hcut : ∀ {bytes : List UInt8}, bytes ≠ [] → bytes.dropLast ≠ bytes := by
    intro bytes hne heq
    have hlength := congrArg List.length heq
    have hpos := List.length_pos_iff.mpr hne
    rw [List.length_dropLast] at hlength
    omega
  obtain ⟨hplain, hcompressed⟩ := ofOpened_cutShort d none
  obtain ⟨hmember, htrailer⟩ := hcompressed "a.json.gz" (by decide) m hm
  have hlength : 0 < t.length ∧ t.length < 256 ^ (4 : Nat) := by decide +kernel
  have ht : t ≠ [] := List.length_pos_iff.mp hlength.1
  have hwritten : m.written ≠ [] := by
    simp [Gzip.Member.written, Gzip.Header.written, Gzip.Header.checkedPart, Gzip.Header.start]
  have hzeros : zeros ≠ m.trailer := by
    -- The checksum is passed over: the length in the trailer is not zero.
    intro heq
    have hsize := congrArg (fun trailer => Gzip.littleEndian (trailer.drop 4)) heq
    simp only [Gzip.Member.trailer, hm] at hsize
    rw [List.drop_left' (Gzip.length_lowBytes 4 _), Gzip.littleEndian_lowBytes,
      Nat.mod_eq_of_lt hlength.2] at hsize
    exact absurd hsize (Nat.ne_of_lt hlength.1)
  exact ⟨hm, (hplain "a.json" (by decide) _ (List.dropLast_prefix t)).mpr (hcut ht),
    (hmember _ (List.dropLast_prefix _)).mpr (hcut hwritten),
    (htrailer zeros (by decide)).mpr hzeros⟩

end Dataset

end Gazetteer

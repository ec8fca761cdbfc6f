/-
# Gazetteer.Proofs.Dataset.EveryWay -- all ways in agree

The text of a dataset can be handed over as it is, read from a stream, or loaded from a file, plain
or compressed. Each way comes to the same stream of bytes, and so to the same dataset or to the same
failure. For compressed files this rests on the reading of the blocks that they are made of,
whatever the mix of blocks.
-/
import Gazetteer.Dataset.Loading
import Gazetteer.Proofs.Dataset.Reload
import Gazetteer.Proofs.Gzip.Member

namespace Gazetteer

/-! ## Files -/

theorem Storage.Opened.stream_plain {path : Text} (h : isCompressed path = false)
    (bytes : List UInt8) : Opened.stream path (.file bytes) = .ofBytes bytes := by
  rw [Opened.stream, h]
  rfl

theorem Storage.Opened.stream_member {path : Text} (h : isCompressed path = true)
    (m : Gzip.Member) : Opened.stream path (.file m.written) = .ofBytes m.content := by
  have hread := Gzip.Member.decompress_written m []
  rw [List.append_nil] at hread
  rw [Opened.stream, if_pos h, hread]

/-! ## Loading -/

namespace Dataset

/-- **All ways in agree.** A text gives the same dataset or the same failure when it is handed over,
when its bytes are read, when they are loaded from a file whose name tells of no compression, and
when they are loaded from a file whose name does and which is compressed into any row of blocks that
repeat nothing, behind any header. -/
theorem ofOpened_everyWay (t : Text) (m : Gzip.Member) (hm : m.content = Text.utf8 t)
    (plain compressed : Text) (hplain : Storage.isCompressed plain = false)
    (hcompressed : Storage.isCompressed compressed = true) :
    ofStream (.ofBytes (Text.utf8 t)) none = ofText t
      ∧ ofOpened plain (.ok (.file (Text.utf8 t))) none = ofText t
      ∧ ofOpened compressed (.ok (.file m.written)) none = ofText t := by
  refine ⟨rfl, ?_, ?_⟩
  · rw [ofOpened, Storage.Opened.stream_plain hplain, ofText]
  · rw [ofOpened, Storage.Opened.stream_member hcompressed, hm, ofText]

/-- A dataset of one country, compressed into a block of each kind behind a header with a name. -/
theorem ofOpened_everyWay_bothKinds :
    let country : Country := { alpha2 := "CH", alpha3 := "CHE", name := "Switzerland" }
    let t : Text := (Document.form.toJson { countries := [country] }).compact
    let header : Gzip.Header :=
      { isText := true, time := 0, compression := 0, system := 3, extra := none,
        name := some (Text.utf8 "a.json"), comment := none, isChecked := true,
        extra_size := by simp, zero_notMem_name := by decide, zero_notMem_comment := by simp }
    let m : Gzip.Member :=
      { header := header
        earlier := [.literals ((Text.utf8 t).take 3),
          .plain 0 (((Text.utf8 t).drop 3).take 40) (by rw [List.length_take]; omega)]
        last := .literals ((Text.utf8 t).drop 43), filler := 0 }
    m.content = Text.utf8 t
      ∧ Storage.isCompressed "a.json" = false ∧ Storage.isCompressed "a.json.GZ" = true
      ∧ ofOpened "a.json" (.ok (.file (Text.utf8 t))) none
        = .ok { countries := [country], languages := [], groups := [] }
      ∧ ofOpened "a.json.GZ" (.ok (.file m.written)) none
        = .ok { countries := [country], languages := [], groups := [] } := by
  intro country t header m
  have hm : m.content = Text.utf8 t := by
    have hrest := List.take_append_drop 40 ((Text.utf8 t).drop 3)
    rw [List.drop_drop] at hrest
    simp only [Gzip.Member.content, m, List.cons_append, List.nil_append, List.flatMap_cons,
      List.flatMap_nil, List.append_nil, Gzip.Block.bytes, hrest, List.take_append_drop]
  have hplain : Storage.isCompressed "a.json" = false := by decide
  have hcompressed : Storage.isCompressed "a.json.GZ" = true := by decide
  have hload : ofText t = .ok { countries := [country], languages := [], groups := [] } := by
    rw [ofText_toJson { countries := [country] } (Json.spells_compact _)]
    rfl
  obtain ⟨-, hfile, hmember⟩ :=
    ofOpened_everyWay t m hm "a.json" "a.json.GZ" hplain hcompressed
  exact ⟨hm, hplain, hcompressed, hfile.trans hload, hmember.trans hload⟩

end Dataset

end Gazetteer

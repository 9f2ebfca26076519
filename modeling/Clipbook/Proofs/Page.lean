import Clipbook.Page.Field
import Clipbook.Proofs.Outcome
import Clipbook.Proofs.Schema.Missing
import Clipbook.Proofs.Value.Reader

/-!
# Clipbook — what pages say of themselves

The fields of a page always have a text, if only the empty one, whatever the page and its data
hold.  Its data can be told unless one of its blocks holds a number of too many digits: a block
that is no JSON, or is nested too deeply, is left out, but that one is not.

Main results:

* `Field.exists_resolve` — fields never fail.
* `Page.exists_data_iff` — the pages whose data can be told.
-/

namespace Clipbook

/-! ## Fields -/

theorem Schema.exists_lookup (v : Value) (prop default : Text) :
    ∃ t, (lookup v prop default).result = .ok t := by
  unfold lookup
  split
  · exact ⟨_, rfl⟩
  · split
    · exact ⟨_, rfl⟩
    · exact ⟨_, rfl⟩

theorem Source.exists_text (p : Page) (data : Value) (s : Source) :
    ∃ t, (s.text p data).result = .ok t := by
  cases s with
  | tag key value => exact ⟨_, rfl⟩
  | property name => exact Schema.exists_lookup data name []
  | time => exact ⟨_, rfl⟩
  | title => exact ⟨_, rfl⟩

theorem Source.exists_resolve (p : Page) (data : Value) (sources : List Source) :
    ∃ t, (resolve p data sources).result = .ok t := by
  induction sources with
  | nil => exact ⟨[], rfl⟩
  | cons s sources ih =>
    rw [resolve]
    refine Outcome.exists_bind_iff.mpr ?_
    obtain ⟨t, ht⟩ := s.exists_text p data
    refine ⟨t, ht, ?_⟩
    -- the first source that says something ends the search
    split
    · exact ih
    · exact ⟨_, rfl⟩

/-- **A field always has a text.** -/
theorem Field.exists_resolve (f : Field) (p : Page) (data : Value) :
    ∃ t, (f.resolve p data).result = .ok t :=
  Source.exists_resolve p data f.sources

/-! ## Data -/

namespace Page

/-- A block holds a number of too many digits, and is JSON up to there. -/
def Overlong (t : Text) : Prop :=
  ∃ digits, Value.ofJson t = .error (.longNumeral digits)

/-- Blocks are read unless one of them holds a number of too many digits. -/
theorem exists_readBlocks_iff (ts : List Text) :
    (∃ vs, (readBlocks ts).result = .ok vs) ↔ ∀ t ∈ ts, ¬Overlong t := by
  induction ts with
  | nil => exact iff_of_true ⟨[], rfl⟩ nofun
  | cons t ts ih =>
    rw [List.forall_mem_cons, ← ih, readBlocks]
    cases hread : Value.ofJson t with
    | ok v =>
      rw [and_iff_right fun ⟨_, h⟩ => nomatch hread.symm.trans h]
      exact Outcome.exists_map_iff
    | error f =>
      have hskipped : (∃ vs, (Outcome.warn .skippedDataBlock >>= fun _ => readBlocks ts).result =
          .ok vs) ↔ ∃ vs, (readBlocks ts).result = .ok vs := by
        rw [Outcome.result_bind_of_ok (a := ()) rfl]
      -- what is no JSON, or too deep, is left out
      rcases Value.ofJson_error_cases hread with ⟨cause, place, rfl⟩ | rfl | ⟨digits, rfl, -⟩
      · rw [and_iff_right fun ⟨_, h⟩ => nomatch hread.symm.trans h]
        exact hskipped
      · rw [and_iff_right fun ⟨_, h⟩ => nomatch hread.symm.trans h]
        exact hskipped
      · exact iff_of_false nofun fun h => h.1 ⟨digits, hread⟩

/-- **The data of a page can be told** unless one of its blocks holds a number of too many
digits. -/
theorem exists_data_iff (p : Page) :
    (∃ v, p.data.result = .ok v) ↔ ∀ t ∈ p.dataBlocks, ¬Overlong t := by
  rw [← exists_readBlocks_iff, data, Outcome.exists_bind_iff]
  refine exists_congr fun vs => and_iff_left ?_
  split
  · exact ⟨_, rfl⟩
  · exact ⟨_, rfl⟩
  · exact ⟨_, rfl⟩

end Page

end Clipbook

import JsonPatch.Proofs.Json.Skim
import JsonPatch.Proofs.Patch.Standard

/-! # Patches from text

A text that is no patch document is refused as such: its bytes, its syntax or the descriptors are
reported.  One thing escapes as a fault of its own, an integer with more digits than are read
(`build_escapes_iff`), and that only where the text is correct so far and a value stands: the same
digits in a string or behind a mistake do no harm.  A document that is no text may hold an integer
that was never read; it may keep the flaws of the document from being reported. -/

namespace JsonPatch

namespace Source

/-- The characters of a source that is a JSON text. -/
inductive Holds : Source → List Char → Prop where
  | text (s : String) : Holds (value (.string s)) s.toList
  | bytes {content : List UInt8} {text : List Char} (h : Utf8.decode content = .ok text) :
    Holds (value (.bytes content)) text
  | file (content : String) : Holds (file content) content.toList

theorem readText_error_iff {text : List Char} {f : Fault} :
    readText text = .error (.fault f) ↔ ∃ n, Json.ComesToLong n text ∧ f = .longNumber n := by
  unfold readText
  constructor
  · intro h
    cases hr : Json.read text with
    | ok v => rw [hr] at h; cases h
    | error cause =>
        rw [hr] at h
        cases cause with
        | located => cases h
        | longNumber n =>
            cases h
            exact ⟨n, Json.read_longNumber_iff.mp hr, rfl⟩
  · rintro ⟨n, hn, rfl⟩
    rw [Json.read_longNumber_iff.mpr hn]
    rfl

/-- A source is read without a fault, unless it is a text that comes to an integer with too many
digits. -/
theorem read_error_iff {source : Source} {f : Fault} :
    source.read = .error (.fault f) ↔
      ∃ text n, source.Holds text ∧ Json.ComesToLong n text ∧ f = .longNumber n := by
  constructor
  · intro h
    cases source with
    | file content =>
        obtain ⟨n, hn, hf⟩ := readText_error_iff.mp h
        exact ⟨_, n, .file content, hn, hf⟩
    | brokenFile cause => cases h
    | value v =>
        cases v with
        | string s =>
            obtain ⟨n, hn, hf⟩ := readText_error_iff.mp h
            exact ⟨_, n, .text s, hn, hf⟩
        | bytes content =>
            rw [read] at h
            split at h
            · rename_i text hd
              obtain ⟨n, hn, hf⟩ := readText_error_iff.mp h
              exact ⟨_, n, .bytes hd, hn, hf⟩
            · cases h
        | _ => cases h
  · rintro ⟨text, n, hs, hn, hf⟩
    have h := readText_error_iff.mpr ⟨n, hn, hf⟩
    cases hs with
    | text => exact h
    | file => exact h
    | bytes hd =>
        rw [read, hd]
        exact h

end Source

namespace Patch

/-- Building a patch fails with a fault only where its source is read or where there is no report on
its document. -/
theorem build_eq_fault {settings : Settings} {withPredicates : Value} {source : Source}
    {f : Fault} :
    build { settings, withPredicates } source = .error (.fault f) ↔
      source.read = .error (.fault f) ∨ ∃ ops, source.read = .ok ops ∧
        Grammar.reports (Grammar.check settings.validateSchema.isTruthy ops) = .error f := by
  unfold build
  cases hread : source.read with
  | error e => simp
  | ok ops =>
      have hvalidate := @Grammar.validate_eq_fault settings.validateSchema.isTruthy ops f
      dsimp only
      cases hv : validate settings.validateSchema.isTruthy ops with
      | error e =>
          rw [hv] at hvalidate
          simpa using hvalidate
      | ok ops' =>
          rw [hv] at hvalidate
          obtain ⟨registry, hr⟩ :=
            exists_buildRegistry (o := { settings, withPredicates })
              PredicateSet.empty_notMem_names_builtin
          dsimp only
          rw [assemble, hr]
          simpa [Except.map, Except.mapError] using hvalidate

/-- A source whose report there is not is no text. -/
theorem not_isText_of_reports {source : Source} {ops : Value} (hread : source.read = .ok ops)
    {whole : Bool} {f : Fault} (h : Grammar.reports (Grammar.check whole ops) = .error f) :
    ¬ source.IsText := by
  intro hs
  obtain ⟨entries, hentries⟩ := Grammar.exists_reports (source.read_isWritable hs hread) whole
  rw [hentries] at h
  cases h

/-- An error that is not about the patch document leaves the building of a patch exactly in two
cases.  The source is a text that comes to an integer with too many digits, and it is the fault of
these; or the source is no text but a document with a flaw that cannot be shown. -/
theorem build_escapes_iff {settings : Settings} {withPredicates : Value} {source : Source}
    {e : BuildError} :
    build { settings, withPredicates } source = .error e ∧ e.isInvalidDocument = false ↔
      (∃ text n, source.Holds text ∧ Json.ComesToLong n text ∧ e = .fault (.longNumber n)) ∨
      ¬ source.IsText ∧ ∃ ops f, source.read = .ok ops ∧
        Grammar.reports (Grammar.check settings.validateSchema.isTruthy ops) = .error f ∧
        e = .fault f := by
  constructor
  · rintro ⟨h, he⟩
    cases e with
    | fault f =>
        rcases build_eq_fault.mp h with h | ⟨ops, hread, hreports⟩
        · obtain ⟨text, n, hs, hn, rfl⟩ := Source.read_error_iff.mp h
          exact .inl ⟨text, n, hs, hn, rfl⟩
        · exact .inr ⟨not_isText_of_reports hread hreports, ops, f, hread, hreports, rfl⟩
    | _ => cases he
  · rintro (⟨text, n, hs, hn, rfl⟩ | ⟨-, ops, f, hread, hreports, rfl⟩)
    · exact ⟨build_eq_fault.mpr (.inl (Source.read_error_iff.mpr ⟨text, n, hs, hn, rfl⟩)), rfl⟩
    · exact ⟨build_eq_fault.mpr (.inr ⟨ops, hread, hreports⟩), rfl⟩

/-- A number of many digits is no patch document, but the error is not about the document. -/
theorem build_ones :
    let text := String.ofList (List.replicate 4301 '1')
    build { settings := Settings.ofEnvironment [] } (.value (.string text)) =
        .error (.fault (.longNumber 4301)) ∧
      BuildError.isInvalidDocument (.fault (.longNumber 4301)) = false := by
  intro text
  have hlong : Json.ComesToLong 4301 text.toList := by
    rw [String.toList_ofList]
    exact Json.comesToLong_ones (by decide)
  exact ⟨build_eq_fault.mpr (.inl (Source.read_error_iff.mpr ⟨_, _, .text text, hlong, rfl⟩)), rfl⟩

end Patch
end JsonPatch

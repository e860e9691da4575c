import WasmGauge.Gauge.Source
import WasmGauge.Proofs.Storage.Normalisation

/-!
# Locators

A source is a path in its normal form, so that its text names it and nothing else does. Resolving a
locator against a base composes: locators may be put together before they are resolved, or resolved one
against the other.

## Main statements

- `Source.Resolves`: what a text is resolved to.
- `Source.canonical`: sources, their texts and their locators.
-/

namespace WasmGauge

open Storage (Path)

namespace Source

variable {s t : Source}

/-! ## §1 Sources and their texts -/

theorem ofText_text (s : Source) : ofText s.text = s :=
  congrArg Source.mk (Path.ofText_text s.path)

theorem eq_iff_text : s = t ↔ s.text = t.text := by
  obtain ⟨p⟩ := s
  obtain ⟨q⟩ := t
  rw [Source.mk.injEq]
  exact Path.text_inj.symm

/-! ## §2 Resolving -/

/-- A text is resolved to the path behind the base. -/
theorem resolve_text (bundled b : Path) (n : String) :
    resolve bundled (some (.path b)) (.value (.str n)) = .ok ⟨b.child n⟩ := rfl

theorem resolve_path (bundled b q : Path) :
    resolve bundled (some (.path b)) (.path q) = .ok ⟨b.join q⟩ := rfl

/-- What a text is resolved to, relative to a base. -/
structure Resolves (b : Path) (n : String) (s : Source) : Prop where
  /-- A text that does not depend on the current directory does not depend on the base. -/
  absolute : (Path.ofText n).isAbsolute = true → s = ofText n
  /-- A text that stands for the place itself stands for the base. -/
  empty : (Path.ofText n).text = "." → s = ⟨b⟩
  /-- Any other text says how the file is called, and whether it is a text. -/
  relative : (Path.ofText n).isAbsolute = false → (Path.ofText n).text ≠ "." →
    s.name = (ofText n).name ∧ s.isText = (ofText n).isText

theorem resolves_child (b : Path) (n : String) : Resolves b n ⟨b.child n⟩ where
  absolute h := congrArg Source.mk (Path.join_of_isAbsolute h)
  empty h := by
    obtain ⟨hroot, hparts⟩ := Path.text_eq_dot_iff.1 h
    have hrelative : (Path.ofText n).isAbsolute = false := by rw [Path.isAbsolute, hroot]; rfl
    refine congrArg Source.mk (Path.eq_of_root_parts (Path.root_join hrelative) ?_)
    rw [Path.child, Path.parts_join hrelative, hparts, List.append_nil]
  relative hrelative hdot := by
    -- it is relative and not the place itself, so it has parts, the last of which is the name
    have hroot : (Path.ofText n).root = .relative := by simpa [Path.isAbsolute] using hrelative
    have hne : (Path.ofText n).parts ≠ [] := fun h => hdot (Path.text_eq_dot_iff.2 ⟨hroot, h⟩)
    have hname : (b.child n).name = (Path.ofText n).name := by
      unfold Path.name Path.child
      rw [Path.parts_join hrelative, List.getLast?_append, List.getLast?_eq_some_getLast hne,
        Option.some_or]
    refine ⟨hname, ?_⟩
    show (b.child n).hasSuffix ".wat" = (Path.ofText n).hasSuffix ".wat"
    unfold Path.hasSuffix
    rw [hname]

/-! ## §3 Canonical locators -/

/-- The text of a source gives the source back, and sources with the same text are the same. A text is
resolved as `Resolves` says, and resolving composes: one text resolved against what another has been
resolved to is both together resolved against the base. A source is a text if its file has a name that
ends in `.wat` and is more than that. The path of a text is its normal form, and a path is written as
its root and its parts, or as a dot if it has neither. -/
theorem canonical (bundled : Path) :
    (∀ p : String, ofText (ofText p).text = ofText p) ∧
    (∀ s t : Source, s = t ↔ s.text = t.text) ∧
    (∀ (b : Path) (n m : String), ∃ s t,
      resolve bundled (some (.path b)) (.value (.str n)) = .ok s ∧ Resolves b n s ∧
      resolve bundled (some (.path s.path)) (.value (.str m)) = .ok t ∧
      resolve bundled (some (.path b)) (.path ((Path.ofText n).child m)) = .ok t) ∧
    (∀ s : Source, s.isText = true ↔
      ∃ front stem, s.path.parts = front ++ [stem ++ ".wat"] ∧ stem ≠ "") ∧
    (∀ (p : Path) (text : String), p.Normalises text ↔ p = Path.ofText text) ∧
    (∀ p : Path, p.text =
      if p.root = .relative ∧ p.parts = [] then "." else p.root.text ++ "/".intercalate p.parts) := by
  refine ⟨fun p => ofText_text _, fun s t => eq_iff_text, fun b n m => ?_, fun s => ?_,
    fun p text => Path.normalises_iff, Path.text_eq⟩
  · refine ⟨_, _, resolve_text bundled b n, resolves_child b n, resolve_text bundled _ m, ?_⟩
    rw [resolve_path, ← Path.child_child]
  · exact Path.hasSuffix_iff

end Source

end WasmGauge

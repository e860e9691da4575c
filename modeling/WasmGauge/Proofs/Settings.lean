import WasmGauge.Gauge.Settings
import WasmGauge.Proofs.Storage.Normalisation

/-!
# Which setting decides

Three settings name a directory for the module cache: one for this purpose, one for all caches, and the
home directory, in the environment or of the account. The strongest one that is present decides alone.
But the home directory is looked for first, also where it does not matter: where there is none, there are
no settings at all.

## Main statements

- `Environment.home_eq_ok_iff`, `Environment.home_eq_error_iff`: which home directory there is.
- `Settings.strongest_decides`: the settings fail only for want of a home directory, and otherwise the
  strongest setting decides.
- `Settings.not_forall_named`: they fail for want of a home directory also where one is named for the
  purpose.
-/

namespace WasmGauge

open Storage (Path)

/-! ## §1 Slashes at the end -/

section Slashes

variable {s : String}

theorem withoutSlashes_prefix (s : String) : (withoutSlashes s).toList <+: s.toList := by
  unfold withoutSlashes
  rw [String.toList_ofList, ← List.reverse_suffix, List.reverse_reverse]
  exact List.dropWhile_suffix _

/-- Nothing is left of slashes alone. -/
theorem withoutSlashes_eq_empty_iff : withoutSlashes s = "" ↔ ∀ c ∈ s.toList, c = '/' := by
  have hempty : withoutSlashes s = "" ↔ s.toList.reverse.dropWhile (· == '/') = [] := by
    rw [← String.toList_eq_nil_iff, withoutSlashes, String.toList_ofList, List.reverse_eq_nil_iff]
  rw [hempty, List.dropWhile_eq_nil_iff]
  simp

def onlySlashes (s : String) : Bool := s.toList.all (· == '/')

theorem onlySlashes_iff : onlySlashes s = true ↔ ∀ c ∈ s.toList, c = '/' := by
  simp [onlySlashes]

/-- The slashes at the end of a text do not matter for its path. -/
theorem ofText_withoutSlashes (h : ∃ c ∈ s.toList, c ≠ '/') :
    Path.ofText (withoutSlashes s) = Path.ofText s := by
  obtain ⟨cs, rfl⟩ : ∃ cs, s = String.ofList cs := ⟨s.toList, String.ofList_toList.symm⟩
  rw [String.toList_ofList] at h
  -- on the characters from the end: slashes are dropped until there is another one
  induction cs using List.reverseRecOn with
  | nil => simp at h
  | append_singleton cs c ih =>
    -- a slash is dropped and makes no difference; any other character ends the dropping
    by_cases hc : c = '/'
    · subst hc
      have hrest : ∃ c ∈ cs, c ≠ '/' := by
        obtain ⟨c, hmem, hne⟩ := h
        exact ⟨c, by simpa [hne] using hmem, hne⟩
      have hdrop : withoutSlashes (String.ofList (cs ++ ['/'])) = withoutSlashes (String.ofList cs) := by
        simp [withoutSlashes]
      have hsplit : String.ofList (cs ++ ['/']) = String.ofList cs ++ "/" := by
        rw [String.ofList_append]
      rw [hdrop, ih hrest, hsplit, Path.ofText_append_slash (by simpa using hrest)]
    · have hkeep : withoutSlashes (String.ofList (cs ++ [c])) = String.ofList (cs ++ [c]) := by
        simp [withoutSlashes, hc]
      rw [hkeep]

/-- Whether a text begins with a tilde has nothing to do with the slashes at its end. -/
theorem startsWith_withoutSlashes :
    (withoutSlashes s).startsWith "~" = true ↔ s.toList.head? = some '~' := by
  rw [String.startsWith_string_iff]
  have hfirst : ∀ cs : List Char, "~".toList <+: cs ↔ cs.head? = some '~' := by
    intro cs
    cases cs <;> simp [eq_comm]
  rw [hfirst]
  obtain ⟨slashes, hs⟩ := withoutSlashes_prefix s
  rcases hu : (withoutSlashes s).toList with _ | ⟨c, cs⟩
  · -- a text of slashes alone does not begin with a tilde either
    have hall := withoutSlashes_eq_empty_iff.1 (String.toList_eq_nil_iff.1 hu)
    constructor
    · intro h
      cases h
    · intro h
      exact absurd (hall '~' (List.mem_of_mem_head? h)) (by decide)
  · rw [← hs, hu]
    rfl

end Slashes

/-! ## §2 The home directory -/

namespace Environment

variable {e e' : Environment} {account : Option String}

/-- The text that the home directory is taken from. -/
def homeText? (e : Environment) (account : Option String) : Option String :=
  (e.lookup "HOME").or account

/-- A text says where the home directory is: it does not begin with a tilde. If there is nothing but
slashes in it, it stands for the root. -/
def HomeAt (text : String) (home : Path) : Prop :=
  text.toList.head? ≠ some '~' ∧
    home = if onlySlashes text then Path.ofText "/" else Path.ofText text

theorem home_of_none (h : e.homeText? account = none) : e.home account = .error .homeless := by
  unfold home
  rw [show (e.lookup "HOME").or account = none from h]

theorem home_of_some {text : String} (h : e.homeText? account = some text) :
    e.home account =
      if text.toList.head? = some '~' then .error .homeless
      else .ok (if onlySlashes text then Path.ofText "/" else Path.ofText text) := by
  have hpath : Path.ofText (if withoutSlashes text = "" then "/" else withoutSlashes text) =
      if onlySlashes text then Path.ofText "/" else Path.ofText text := by
    simp only [withoutSlashes_eq_empty_iff, ← onlySlashes_iff]
    -- slashes alone stand for the root, and so they are read
    cases hslashes : onlySlashes text with
    | true => rfl
    | false =>
      have hother : ∃ c ∈ text.toList, c ≠ '/' := by simpa [onlySlashes] using hslashes
      exact ofText_withoutSlashes hother
  unfold home
  rw [show (e.lookup "HOME").or account = some text from h]
  simp only [startsWith_withoutSlashes, hpath]

/-- There is a home directory exactly if a text says where it is. -/
theorem home_eq_ok_iff {home : Path} :
    e.home account = .ok home ↔ ∃ text, e.homeText? account = some text ∧ HomeAt text home := by
  cases htext : e.homeText? account with
  | none => simp [home_of_none htext]
  | some text =>
    rw [home_of_some htext]
    -- a text with a tilde is refused, whatever follows
    by_cases htilde : text.toList.head? = some '~'
    · simp [HomeAt, htilde]
    · rw [if_neg htilde, Except.ok.injEq]
      constructor
      · rintro rfl
        exact ⟨text, rfl, htilde, rfl⟩
      · rintro ⟨text', htext', hat⟩
        obtain rfl : text = text' := Option.some.inj htext'
        exact hat.2.symm

theorem home_eq_error_iff {f : Failure} :
    e.home account = .error f ↔
      f = .homeless ∧ ∀ text, e.homeText? account = some text → text.toList.head? = some '~' := by
  cases htext : e.homeText? account with
  | none => simp [home_of_none htext, eq_comm]
  | some text =>
    rw [home_of_some htext]
    by_cases htilde : text.toList.head? = some '~'
    · simp [htilde, eq_comm]
    · simp [htilde]

end Environment

/-! ## §3 The cache directory -/

namespace Settings

variable {e e' : Environment} {account : Option String}

/-- The directory of the module cache is the one that the strongest setting present says. -/
structure Decides (account : Option String) (e : Environment) (directory : Path) : Prop where
  /-- A directory that is named for this purpose is the one. -/
  named (text : String) : e.lookup "WASMBENCH_CACHE_DIR" = some text → directory = Path.ofText text
  /-- Otherwise it lies in the one for all caches. -/
  caches (text : String) : e.lookup "WASMBENCH_CACHE_DIR" = none →
    e.lookup "XDG_CACHE_HOME" = some text → directory = (Path.ofText text).child "wasmbench"
  /-- Otherwise it lies in the home directory. -/
  home : e.lookup "WASMBENCH_CACHE_DIR" = none → e.lookup "XDG_CACHE_HOME" = none →
    ∃ text home, e.homeText? account = some text ∧ Environment.HomeAt text home ∧
      directory = home.child ".cache/wasmbench"

/-- Two environments agree on the strongest setting that is present in them. -/
inductive SameStrongest (account : Option String) (e e' : Environment) : Prop where
  /-- Both name the same directory for this purpose. -/
  | named {text : String} (h : e.lookup "WASMBENCH_CACHE_DIR" = some text)
      (h' : e'.lookup "WASMBENCH_CACHE_DIR" = some text) : SameStrongest account e e'
  /-- Neither does, and both name the same one for all caches. -/
  | caches {text : String} (hn : e.lookup "WASMBENCH_CACHE_DIR" = none)
      (hn' : e'.lookup "WASMBENCH_CACHE_DIR" = none) (h : e.lookup "XDG_CACHE_HOME" = some text)
      (h' : e'.lookup "XDG_CACHE_HOME" = some text) : SameStrongest account e e'
  /-- Neither names one, and both take the home directory from the same text. -/
  | home (hn : e.lookup "WASMBENCH_CACHE_DIR" = none)
      (hn' : e'.lookup "WASMBENCH_CACHE_DIR" = none) (hc : e.lookup "XDG_CACHE_HOME" = none)
      (hc' : e'.lookup "XDG_CACHE_HOME" = none)
      (h : e.homeText? account = e'.homeText? account) : SameStrongest account e e'

theorem forAccount_eq_error_iff {f : Failure} :
    forAccount account e = .error f ↔ e.home account = .error f := by
  unfold forAccount
  cases e.home account <;> simp [bind, Except.bind]

/-- Where there are settings, the strongest one decides. -/
theorem decides_of_ok {s : Settings} (h : forAccount account e = .ok s) :
    Decides account e s.cacheDirectory := by
  unfold forAccount at h
  cases hhome : e.home account with
  | error f => simp [hhome, bind, Except.bind] at h
  | ok home =>
    simp only [hhome, bind, Except.bind, Except.ok.injEq] at h
    subst h
    constructor
    · intro text htext
      simp only [htext]
    · intro text hnone htext
      simp only [hnone, htext, Path.ofText_text]
    · intro hnone hnone'
      obtain ⟨text, htext, hat⟩ := Environment.home_eq_ok_iff.1 hhome
      refine ⟨text, home, htext, hat, ?_⟩
      have hboth : (Path.ofText ".cache").child "wasmbench" = Path.ofText ".cache/wasmbench" := by
        decide
      simp only [hnone, hnone', Path.ofText_text, Path.child_child, hboth]
      rfl

theorem Decides.unique {directory directory' : Path} (h : Decides account e directory)
    (h' : Decides account e' directory') (hsame : SameStrongest account e e') :
    directory = directory' := by
  cases hsame with
  | named hn hn' => rw [h.named _ hn, h'.named _ hn']
  | caches hn hn' hc hc' => rw [h.caches _ hn hc, h'.caches _ hn' hc']
  | home hn hn' hc hc' htext =>
    obtain ⟨text, home, hsome, hat, rfl⟩ := h.home hn hc
    obtain ⟨text', home', hsome', hat', rfl⟩ := h'.home hn' hc'
    obtain rfl : text = text' := Option.some.inj (hsome.symm.trans (htext.trans hsome'))
    rw [hat.2, hat'.2]

/-- There are settings unless there is no home directory. Where there are, the strongest one decides, and
two environments that agree on it give the cache the same directory. -/
theorem strongest_decides (account : Option String) :
    (∀ e f, forAccount account e = .error f ↔
      f = .homeless ∧ ∀ text, e.homeText? account = some text → text.toList.head? = some '~') ∧
    (∀ e s, forAccount account e = .ok s → Decides account e s.cacheDirectory) ∧
    (∀ e e' s s', SameStrongest account e e' → forAccount account e = .ok s →
      forAccount account e' = .ok s' → s.cacheDirectory = s'.cacheDirectory) := by
  refine ⟨fun e f => ?_, fun e s hs => decides_of_ok hs, fun e e' s s' hsame hs hs' => ?_⟩
  · rw [forAccount_eq_error_iff, Environment.home_eq_error_iff]
  · exact (decides_of_ok hs).unique (decides_of_ok hs') hsame

/-- Without a directory named for the purpose, the one for all caches decides, whatever the home
directory is. -/
theorem strongest_decides_caches : ∃ s,
    forAccount none [("HOME", "/h/"), ("XDG_CACHE_HOME", "//x/./y")] = .ok s ∧
      s.cacheDirectory.text = "//x/y/wasmbench" := by
  obtain ⟨hfails, hdecides, -⟩ := strongest_decides none
  cases hs : forAccount none [("HOME", "/h/"), ("XDG_CACHE_HOME", "//x/./y")] with
  | error f =>
    obtain ⟨-, htilde⟩ := (hfails _ f).1 hs
    exact absurd (htilde "/h/" rfl) (by decide)
  | ok s =>
    refine ⟨s, rfl, ?_⟩
    rw [(hdecides _ s hs).caches "//x/./y" rfl rfl]
    decide

/-- A directory that is named for the purpose does not help where there is no home directory. -/
theorem not_forall_named : ¬ ∀ (e : Environment) (text : String),
    e.lookup "WASMBENCH_CACHE_DIR" = some text →
      ∃ s, ofEnvironment e = .ok s ∧ s.cacheDirectory = Path.ofText text := by
  intro h
  obtain ⟨s, hs, -⟩ := h [("HOME", "~"), ("WASMBENCH_CACHE_DIR", "/c")] "/c" rfl
  have hfails : ofEnvironment [("HOME", "~"), ("WASMBENCH_CACHE_DIR", "/c")] = .error .homeless := by
    refine forAccount_eq_error_iff.2 (Environment.home_eq_error_iff.2 ⟨rfl, fun text htext => ?_⟩)
    obtain rfl : "~" = text := Option.some.inj htext
    rfl
  rw [hfails] at hs
  cases hs

end Settings

end WasmGauge

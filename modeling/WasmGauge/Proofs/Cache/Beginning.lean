import WasmGauge.Gauge.Bundle
import WasmGauge.Proofs.Cache.Soundness

/-!
# The beginning of a run

At the beginning of a run no cache has been opened, nothing is remembered, and the directory that is
set for artifacts is not there yet. Opening the cache makes it, and it is the user's own. So both
binary modules that come with the harness may go through the cache from the first step on.

## Main statements

- `CacheScope.bare_start`: nothing is kept at the beginning.
- `CacheScope.ready_start`: sources of the bundled modules may be compiled through the cache.
-/

namespace WasmGauge

open Storage (Path Disk)
open Wasm (Bytes)

/-- The cache that is opened first. -/
def Cache.first : Cache := ⟨1, Settings.standard.cacheDirectory⟩

/-- The disk after the first cache has been opened. -/
def Bundle.diskOpened : Disk :=
  (Bundle.disk.ensureDirectory Settings.standard.cacheDirectory Cache.directoryMode).toOption.getD
    Bundle.disk

def Bundle.fib : Source := ⟨Bundle.directory.child "fib.wasm"⟩

def Bundle.fibOpt : Source := ⟨Bundle.directory.child "fib_opt.wasm"⟩

theorem Bundle.dataOn_fib : Bundle.fib.dataOn Bundle.disk = .ok Bundle.fibBinary := by
  decide +kernel

theorem Bundle.dataOn_fibOpt : Bundle.fibOpt.dataOn Bundle.disk = .ok Bundle.fibOptBinary := by
  decide +kernel

namespace CacheScope

/-- The directory that is set for artifacts, with the bundled modules. -/
def bundled : CacheScope where
  home := Bundle.workplace ++ ["cache"]
  datas data := data ∈ [Bundle.fibBinary, Bundle.fibOptBinary]
  distinct := by
    -- two digests are computed and differ; the other cases compare one with itself
    have hkeys : keyOf Bundle.fibBinary ≠ keyOf Bundle.fibOptBinary := by decide +kernel
    intro a b ha hb hab
    simp only [List.mem_cons, List.not_mem_nil, or_false] at ha hb
    rcases ha with rfl | rfl <;> rcases hb with rfl | rfl
    · rfl
    · exact absurd hab hkeys
    · exact absurd hab.symm hkeys
    · rfl

variable {data : Bytes} {readings : List Float}

theorem bare_start (readings : List Float) : bundled.Bare (World.start readings) where
  memory := rfl
  entries key := by
    -- nothing that is there at first lies below the directory, whatever its name
    have helsewhere : ∀ x ∈ Bundle.disk.entries, x.1.take 3 ≠ bundled.home := by decide +kernel
    refine List.lookup_eq_none_iff.2 fun x hx => ?_
    refine bne_iff_ne.2 fun heq => helsewhere x hx ?_
    rw [← heq]
    rfl
  fates := by
    intro fate hfate
    cases hfate

theorem ensureDirectory_start :
    Bundle.disk.ensureDirectory Settings.standard.cacheDirectory Cache.directoryMode =
      .ok Bundle.diskOpened := by
  have hopened : (Bundle.disk.ensureDirectory Settings.standard.cacheDirectory
      Cache.directoryMode).isOk = true := by
    decide +kernel
  unfold Bundle.diskOpened
  cases hmade : Bundle.disk.ensureDirectory Settings.standard.cacheDirectory Cache.directoryMode with
  | ok d => rfl
  | error fault =>
      rw [hmade] at hopened
      cases hopened

theorem openAt_start (readings : List Float) :
    (Cache.openAt Settings.standard.cacheDirectory).outcome (World.start readings) =
      (.ok Cache.first, { World.start readings with disk := Bundle.diskOpened, made := 2 }) := by
  have hstatus : Bundle.diskOpened.status Settings.standard.cacheDirectory.text =
      .ok ⟨.directory, 0, Cache.directoryMode⟩ := by
    decide +kernel
  have huser : Bundle.diskOpened.user = 0 := by decide +kernel
  have hdisk : (World.start readings).disk = Bundle.disk := rfl
  rw [Cache.outcome_openAt, hdisk, ensureDirectory_start]
  simp only [hstatus, huser]
  rfl

theorem shared_start (readings : List Float) :
    ∃ w, Cache.shared.outcome (World.start readings) = (.ok Cache.first, w) ∧
      w.disk = Bundle.diskOpened := by
  have hnone : (World.start readings).sharedCache = none := rfl
  have hset : (World.start readings).settings.cacheDirectory = Settings.standard.cacheDirectory := rfl
  rw [Cache.outcome_shared, hnone]
  simp only [hset, openAt_start]
  exact ⟨_, rfl, rfl⟩

theorem find?_diskOpened (n : String) : Bundle.diskOpened.find? (bundled.home ++ [n]) = none := by
  -- below the first three steps of the directory there is the directory alone
  have helsewhere : ∀ x ∈ Bundle.diskOpened.entries,
      x.1.take 3 = bundled.home → x.1 = bundled.home := by
    decide +kernel
  refine List.lookup_eq_none_iff.2 fun x hx => bne_iff_ne.2 fun heq => ?_
  have hhome := helsewhere x hx (by rw [← heq]; rfl)
  rw [← heq] at hhome
  cases hhome

theorem keeps_diskOpened (data : Bytes) :
    Bundle.diskOpened.Keeps Cache.first.directory bundled.home (Cache.entryName (keyOf data)) where
  holds := by decide +kernel
  named := Cache.isEntryName_entryName data
  accepted := Cache.checkName_child_entryName (by decide) (by decide) (by decide) data
  blocked := by
    intro e he
    rw [find?_diskOpened] at he
    cases he

theorem ready_start {s : Source} (hdata : s.dataOn Bundle.disk = .ok data)
    (hknown : bundled.datas data) : bundled.Ready (World.start readings) s := by
  obtain ⟨w, hopen, hdisk⟩ := shared_start readings
  exact ready_of_shared hdata hknown hopen (hdisk ▸ keeps_diskOpened data)

end CacheScope

end WasmGauge

import Mathlib
import MncsForge.Runner.TransientUnits

/-!
# What the merged observations report

A unit is sampled in any order from two sources, and both are read once more when
it ends.  Counters, peaks and the CPU time only ever grow, so the merged value of
such a quantity should be the greatest one that was read.
-/

namespace MncsForge.Runner

open MncsForge.Foundation

/-- What `observe_execution` merges, by where it was read. -/
inductive LiveSample where
  | systemd (properties : UnitProperties)
  | cgroup (reading : CgroupReading)
  | process (hostPid hostStartMarker : Int)

def LiveSample.observations : LiveSample → Observations
  | .systemd properties => properties.systemdObservations
  | .cgroup reading => reading.cgroupValues
  | .process hostPid hostStartMarker =>
      [("host_pid", hostPid), ("host_start_marker", hostStartMarker)]

/-- The quantities that only grow: event counters, peaks and the CPU time. -/
def IsCumulative (key : String) : Prop :=
  key.endsWith "_events" = true ∨
    key ∈ ["cgroup_memory_peak_bytes", "process_count_peak", "cpu_time_microseconds"]

/-- The values of a key, in the order they were read. -/
def valuesOf (key : String) (readings : List Observations) : List Int :=
  readings.filterMap fun reading => Dict.get? reading key

namespace FinishReadings

variable (readings : FinishReadings) (samples : List LiveSample)

/-- Everything that is merged, the readings of `finish_execution` last. -/
def merged : List Observations :=
  samples.map LiveSample.observations ++
    [readings.properties.systemdObservations, readings.liveValues]

/-- Every cumulative quantity that was read is reported by its greatest value. -/
def ReportsMaxima : Prop :=
  ∀ key, IsCumulative key → valuesOf key (readings.merged samples) ≠ [] →
    ∃ greatest,
      Dict.get? (readings.values (samples.map LiveSample.observations)) key = some greatest ∧
        IsGreatest (fun value => value ∈ valuesOf key (readings.merged samples)) greatest

/-- The last reading of the CPU time is its greatest one. -/
def CpuTimeLast : Prop :=
  ∀ last ∈ (valuesOf "cpu_time_microseconds" (readings.merged samples)).getLast?,
    ∀ value ∈ valuesOf "cpu_time_microseconds" (readings.merged samples), value ≤ last

/-- Every other cumulative quantity that was read has a reading that is not negative. -/
def SomeNonnegative : Prop :=
  ∀ key, IsCumulative key → key ≠ "cpu_time_microseconds" →
    valuesOf key (readings.merged samples) ≠ [] →
      ∃ value ∈ valuesOf key (readings.merged samples), 0 ≤ value

end FinishReadings

/-! ## One quantity -/

section Quantity

variable {key : String} {retained incoming : Observations}

theorem get?_mergeObservations (nodup : (Dict.keys incoming).Nodup) :
    Dict.get? (mergeObservations retained incoming) key =
      (Dict.get? incoming key).elim (Dict.get? retained key) fun value =>
        some (if keepsMaximum key then max (Observations.count retained key) value
          else value) := by
  induction incoming generalizing retained with
  | nil => rfl
  | cons entry incoming ih =>
      obtain ⟨fresh, nodup⟩ := List.nodup_cons.mp nodup
      have step : mergeObservations retained (entry :: incoming) =
          mergeObservations (retain retained entry) incoming := rfl
      rw [step, ih nodup, Dict.get?_cons]
      by_cases same : key = entry.1
      · subst same
        rw [Dict.get?_eq_none_iff.mpr fresh, if_pos rfl]
        simp only [Option.elim_none, Option.elim_some, retain, Dict.get?_set, if_true]
      · rw [if_neg same]
        simp only [Observations.count, retain, Dict.get?_set, if_neg same]

/-- A quantity that is not kept by its maximum is the one read last. -/
theorem get?_foldl_merge_last (keeps : keepsMaximum key = false)
    {readings : List Observations} (nodup : ∀ reading ∈ readings, (Dict.keys reading).Nodup) :
    Dict.get? (readings.foldl mergeObservations retained) key =
      ((valuesOf key readings).getLast?).or (Dict.get? retained key) := by
  induction readings generalizing retained with
  | nil => rfl
  | cons reading readings ih =>
      rw [List.foldl_cons, ih fun other member => nodup other (List.mem_cons_of_mem _ member),
        get?_mergeObservations (nodup reading List.mem_cons_self)]
      cases found : Dict.get? reading key with
      | none => rw [valuesOf, valuesOf, List.filterMap_cons, found, Option.elim_none]
      | some value =>
          simp only [valuesOf, List.filterMap_cons, found, Option.elim_some, keeps,
            Bool.false_eq_true, if_false, List.getLast?_cons]
          cases (List.filterMap (fun reading => Dict.get? reading key) readings).getLast? <;> rfl

/-- A quantity that is kept by its maximum folds the maximum from what was there. -/
theorem get?_foldl_merge_max (keeps : keepsMaximum key = true)
    {readings : List Observations} (nodup : ∀ reading ∈ readings, (Dict.keys reading).Nodup) :
    Dict.get? (readings.foldl mergeObservations retained) key =
      if valuesOf key readings = [] then Dict.get? retained key
      else some ((valuesOf key readings).foldl max (Observations.count retained key)) := by
  induction readings generalizing retained with
  | nil => rfl
  | cons reading readings ih =>
      have merge := @get?_mergeObservations key retained reading
        (nodup reading List.mem_cons_self)
      rw [List.foldl_cons, ih fun other member => nodup other (List.mem_cons_of_mem _ member)]
      cases found : Dict.get? reading key with
      | none =>
          rw [found, Option.elim_none] at merge
          have skipped : valuesOf key (reading :: readings) = valuesOf key readings := by
            rw [valuesOf, valuesOf, List.filterMap_cons, found]
          rw [skipped, Observations.count, Observations.count, merge]
      | some value =>
          rw [found, Option.elim_some, if_pos keeps] at merge
          have taken : valuesOf key (reading :: readings) = value :: valuesOf key readings := by
            rw [valuesOf, valuesOf, List.filterMap_cons, found]
          have count : Observations.count (mergeObservations retained reading) key =
              max (Observations.count retained key) value := by
            rw [Observations.count, merge, Option.getD_some]
          rw [taken, if_neg (List.cons_ne_nil _ _), List.foldl_cons, count, merge]
          split_ifs with none_later
          · rw [none_later, List.foldl_nil]
          · rfl

theorem foldl_max_spec (values : List Int) (start : Int) :
    start ≤ values.foldl max start ∧ (∀ value ∈ values, value ≤ values.foldl max start) ∧
      (values.foldl max start = start ∨ values.foldl max start ∈ values) := by
  induction values generalizing start with
  | nil => simp
  | cons first values ih =>
      obtain ⟨above, all, reached⟩ := ih (max start first)
      rw [List.foldl_cons]
      refine ⟨(le_max_left _ _).trans above, ?_, ?_⟩
      · intro value member
        rcases List.mem_cons.mp member with rfl | later
        · exact (le_max_right _ _).trans above
        · exact all value later
      · rcases reached with stays | found
        · rcases max_choice start first with left | right
          · exact Or.inl (stays.trans left)
          · exact Or.inr (by rw [stays, right]; exact List.mem_cons_self)
        · exact Or.inr (List.mem_cons_of_mem _ found)

end Quantity

/-! ## All of them -/

theorem presentValues_ordered (entries : List (String × Option Int)) :
    Dict.Ordered (presentValues entries) :=
  Dict.Ordered.update Dict.ordered_nil _

theorem ordered_nodup {values : Observations} (h : Dict.Ordered values) :
    (Dict.keys values).Nodup :=
  List.Pairwise.imp (fun below => ne_of_lt below) h

theorem LiveSample.observations_nodup (sample : LiveSample) :
    (Dict.keys sample.observations).Nodup := by
  cases sample with
  | systemd properties => exact ordered_nodup (presentValues_ordered _)
  | cgroup reading => exact ordered_nodup (presentValues_ordered _)
  | process hostPid hostStartMarker => simp [LiveSample.observations]

theorem keepsMaximum_cumulative {key : String} (cumulative : IsCumulative key)
    (other : key ≠ "cpu_time_microseconds") : keepsMaximum key = true := by
  rcases cumulative with events | listed
  · rw [keepsMaximum, events, Bool.or_true, Bool.true_or]
  · simp only [List.mem_cons, List.not_mem_nil, or_false] at listed
    rcases listed with rfl | rfl | rfl
    · decide +kernel
    · decide +kernel
    · exact absurd rfl other

theorem keepsMaximum_cpuTime : keepsMaximum "cpu_time_microseconds" = false := by
  decide +kernel

namespace FinishReadings

variable {readings : FinishReadings} {samples : List LiveSample}

theorem merged_nodup : ∀ reading ∈ readings.merged samples, (Dict.keys reading).Nodup := by
  intro reading member
  rcases List.mem_append.mp member with live | final
  · obtain ⟨sample, -, rfl⟩ := List.mem_map.mp live
    exact sample.observations_nodup
  · simp only [List.mem_cons, List.not_mem_nil, or_false] at final
    rcases final with rfl | rfl
    · exact ordered_nodup (presentValues_ordered _)
    · rw [liveValues]
      split_ifs
      · exact List.nodup_nil
      · exact ordered_nodup (presentValues_ordered _)

theorem values_eq : readings.values (samples.map LiveSample.observations) =
    (readings.merged samples).foldl mergeObservations [] := by
  rw [merged, List.foldl_append]
  rfl

theorem get?_values_cpuTime :
    Dict.get? (readings.values (samples.map LiveSample.observations)) "cpu_time_microseconds" =
      (valuesOf "cpu_time_microseconds" (readings.merged samples)).getLast? := by
  rw [values_eq, get?_foldl_merge_last keepsMaximum_cpuTime merged_nodup, Dict.get?_nil,
    Option.or_none]

theorem get?_values_of_keeps {key : String} (keeps : keepsMaximum key = true)
    (read : valuesOf key (readings.merged samples) ≠ []) :
    Dict.get? (readings.values (samples.map LiveSample.observations)) key =
      some ((valuesOf key (readings.merged samples)).foldl max 0) := by
  rw [values_eq, get?_foldl_merge_max keeps merged_nodup, if_neg read]
  rfl

/-- The maxima are reported exactly where the last reading of the CPU time is its greatest
one; the other quantities count up from zero. -/
theorem reportsMaxima_iff :
    readings.ReportsMaxima samples ↔
      readings.CpuTimeLast samples ∧ readings.SomeNonnegative samples := by
  constructor
  · intro reports
    refine ⟨fun last final value member => ?_, fun key cumulative other read => ?_⟩
    · obtain ⟨greatest, reported, -, above⟩ := reports "cpu_time_microseconds"
        (Or.inr (by simp)) (List.ne_nil_of_mem member)
      rw [get?_values_cpuTime, Option.mem_def.mp final] at reported
      cases reported
      exact above member
    · obtain ⟨greatest, reported, member, -⟩ := reports key cumulative read
      have keeps := keepsMaximum_cumulative cumulative other
      rw [get?_values_of_keeps keeps read] at reported
      cases reported
      exact ⟨_, member, (foldl_max_spec _ 0).1⟩
  · rintro ⟨cpuTime, nonnegative⟩ key cumulative read
    by_cases cpu : key = "cpu_time_microseconds"
    · subst cpu
      obtain ⟨last, final⟩ : ∃ last,
          (valuesOf "cpu_time_microseconds" (readings.merged samples)).getLast? = some last :=
        ⟨_, List.getLast?_eq_some_getLast read⟩
      refine ⟨last, get?_values_cpuTime.trans final, ?_, cpuTime last final⟩
      exact List.mem_of_getLast? final
    · have keeps := keepsMaximum_cumulative cumulative cpu
      obtain ⟨-, all, reached⟩ :=
        foldl_max_spec (valuesOf key (readings.merged samples)) 0
      refine ⟨_, get?_values_of_keeps keeps read, ?_, all⟩
      rcases reached with zero | found
      · obtain ⟨value, member, positive⟩ := nonnegative key cumulative cpu read
        have bounded := all value member
        have same : value = (valuesOf key (readings.merged samples)).foldl max 0 := by omega
        rw [← same]
        exact member
      · exact found

/-- A finished unit whose group is gone, with the CPU time that systemd still knows. -/
private def goneGroup (cpuUsageNSec : Int) : FinishReadings where
  properties :=
    { controlGroup := none, result := some "success", activeState := some "inactive"
      subState := some "dead", loadState := some "loaded", execMainCode := some 1
      execMainStatus := some 0, memoryPeak := none, tasksCurrent := none
      cpuUsageNSec := some cpuUsageNSec }
  live := ⟨none, none, none, none, none, none, none⟩
  cleanup :=
    { hasSystemctl := false
      after := ⟨none, none, none, none, none, none, none, none, none, none⟩
      groupExists := fun _ => false, groupProcesses := fun _ => none, resetFailed := none }
  environmentFileRemoved := true
  memoryMaxBytes := 0
  tasksMax := 0
  elapsed := .null
  timeoutSeconds := .null
  outputObserved := .null
  outputBound := .null

/-- Twelve milliseconds were sampled and eleven are reported. -/
theorem reportsMaxima_lowers_cpuTime :
    ¬(goneGroup 10999999).ReportsMaxima
      [.cgroup ⟨none, none, none, none, none, none, some [("usage_usec", 12000)]⟩] := by
  intro reports
  obtain ⟨greatest, reported, -, above⟩ := reports "cpu_time_microseconds"
    (Or.inr (by simp)) (by decide +kernel)
  have sampled : (12000 : Int) ∈ valuesOf "cpu_time_microseconds" ((goneGroup 10999999).merged
      [.cgroup ⟨none, none, none, none, none, none, some [("usage_usec", 12000)]⟩]) := by
    decide +kernel
  have last : greatest = 10999 := by
    rw [get?_values_cpuTime] at reported
    exact Option.some.inj (reported.symm.trans (by decide +kernel))
  have bounded := above sampled
  omega

end FinishReadings

end MncsForge.Runner

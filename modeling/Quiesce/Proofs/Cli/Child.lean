import Quiesce.Cli.Check
import Quiesce.Proofs.Cli.Launch
import Quiesce.Proofs.Daemon.Answers
import Quiesce.Proofs.Trial.Passing
import Quiesce.Proofs.Trial.Transcript

/-!
The daemon as the check sees it. Its program lies in a directory without settings, and is launched
with the durations of the check, or with a longer unit that takes the place of the first one. The
child is ready at once, goes on while nobody sends it a signal, and ends as the daemon does.
-/
namespace Quiesce

namespace Cli.Check

open Settings (Sources)
open Trial

/-! ### The daemon as a child -/

section Child

variable {host : Host} {sources : Sources} {args : List String} {d : Daemon}
  {settings : Settings} {desk : Desk}

/-- A child that ends as a daemon does, whatever signals they get. -/
def EndsAs (b : Behaviour) (d : Daemon) : Prop :=
  ∀ signals, (b signals).exit =
    (d.play signals).exit?.map fun (t, code) => (t, .code code.toUInt32.toNat)

theorem EndsAs.goesOn {b : Behaviour} (h : EndsAs b d) {signals : List (Instant × Signal)}
    (played : (d.play signals).exit? = none) : (b signals).exit = none := by
  rw [h, played]
  rfl

theorem EndsAs.ends {b : Behaviour} (h : EndsAs b d) {signals : List (Instant × Signal)}
    {t : Instant} {code : Int32} (played : (d.play signals).exit? = some (t, code)) :
    (b signals).exit = some (t, .code code.toUInt32.toNat) := by
  rw [h, played]
  rfl

theorem endsAs_daemonLife (launched : Dvm.launch host sources args = .ok d) :
    EndsAs (daemonLife host sources args) d := fun signals => by
  simp only [daemonLife, launched]

/-- The daemon stays its launcher's, who may send it any signal. -/
theorem reachable_daemonLife (host : Host) (sources : Sources) (args : List String) :
    (daemonLife host sources args).Reachable := fun sent t k => by
  unfold daemonLife
  split <;> rfl

/-- The first lines of a daemon are there at once, and tell that it is ready. -/
theorem ready_daemonLife (launched : Dvm.launch host sources args = .ok d)
    (begun : d.Begun host settings desk) :
    ((daemonLife host sources args []).observedBy 0).ready = some (host.pid, none) := by
  have lines : ∀ s ∈ [StatusLine.stage .starting, .ready host.pid none], s.Readable := by
    simp [StatusLine.Readable]
  have read := Observation.ofOutput_render
    ((daemonLife host sources args []).silentBy 0) lines
  have output : ((daemonLife host sources args []).output.filter (·.1 ≤ 0)).flatMap (·.2) =
      [StatusLine.stage .starting, .ready host.pid none].flatMap fun s => lineBytes s.render := by
    simp only [daemonLife, launched, begun.works.play_nil, begun.lines]
    rfl
  rw [Life.observedBy, output, read]
  rfl

end Child

/-! ### The directory -/

/-- Variables that can be handed to a process, none of which is a setting of the daemon. -/
structure Neutral (environment : List (String × String)) : Prop where
  printable : ∀ p ∈ environment, '\x00' ∉ p.1.toList ∧ '\x00' ∉ p.2.toList
  unset : ∀ p ∈ environment, Settings.Environment.key? p.1 = none

/-- A directory with the daemon's program in it and nothing else. -/
def home (host : Host) (environment : List (String × String)) : Directory :=
  .new host { environment := environment } none

variable {host : Host} {environment : List (String × String)}

theorem Neutral.silent (h : Neutral environment) (host : Host) :
    Dvm.Silent (home host environment).sources := by
  have nowhere : (Settings.locate? (Directory.install {} none) Settings.defaultPath).isNone =
      true := by
    decide +kernel
  have alike := Settings.locate?_environment (Directory.install {} none) environment
    Settings.defaultPath
  refine ⟨alike.trans (Option.isNone_iff_eq_none.mp nowhere), ?_⟩
  refine List.filterMap_eq_nil_iff.mpr fun p hp => ?_
  simp only [h.unset p hp, Option.map_none]

theorem Neutral.hasNulByte (h : Neutral environment) {args : List String}
    (printable : ∀ arg ∈ args, '\x00' ∉ arg.toList) :
    (home host environment).hasNulByte Directory.daemonPath args = false := by
  refine List.any_eq_false.mpr fun text ht => ?_
  rw [List.contains_iff_mem]
  rcases List.mem_append.mp ht with own | outside
  · rcases List.mem_cons.mp own with rfl | arg
    · decide
    · exact printable text arg
  · obtain ⟨p, hp, inside⟩ := List.mem_flatMap.mp outside
    obtain ⟨name, value⟩ := h.printable p hp
    simp only [List.mem_cons, List.not_mem_nil, or_false] at inside
    rcases inside with rfl | rfl
    · exact name
    · exact value

/-- The program is found by its path, and is the daemon's. -/
theorem Neutral.launch (h : Neutral environment) {args : List String}
    (printable : ∀ arg ∈ args, '\x00' ∉ arg.toList) :
    (home host environment).launch Directory.daemonPath args =
      .ok (daemonLife host (home host environment).sources args) := by
  have found : ((Directory.install {} none).folder.resolve Directory.daemonPath).toOption =
      some ⟨.here, Path.names Directory.daemonPath⟩ := by
    decide +kernel
  have place : (home host environment).sources.folder.resolve Directory.daemonPath =
      .ok ⟨.here, Path.names Directory.daemonPath⟩ := Settings.eq_ok_of_toOption found
  have placed : (home host environment).launchAt args Directory.daemonPath =
      .ok (daemonLife host (home host environment).sources args) := by
    simp only [Directory.launchAt, place, bind, Except.bind, ite_true]
    rfl
  rw [Directory.launch, h.hasNulByte printable]
  exact placed

/-! ### Durations -/

/-- Durations for which the standard scenarios make sense: a unit is shorter than the grace period,
and four grace periods can still be written on the command line. -/
structure Sensible (r : Request) : Prop where
  named : r.daemon = Directory.daemonPath
  some : 0 < r.unitMs.toNat
  short : r.unitMs.toNat < r.graceMs.toNat
  fits : 4 * r.graceMs.toNat < 18446744073709551616

theorem ne_zero_of_toNat {n : UInt64} (h : 0 < n.toNat) : n ≠ 0 := by
  rintro rfl
  exact absurd h (by decide)

variable {r : Request}

theorem Sensible.unit_ne_zero (sound : Sensible r) : r.unitMs ≠ 0 :=
  ne_zero_of_toNat sound.some

theorem Sensible.nanos_unit_lt (sound : Sensible r) :
    (Duration.ofMillis r.unitMs).nanos < (Duration.ofMillis r.graceMs).nanos :=
  Nat.mul_lt_mul_of_pos_left sound.short (by decide)

theorem Sensible.grace_ne_zero (sound : Sensible r) : r.graceMs ≠ 0 :=
  ne_zero_of_toNat (Nat.lt_trans sound.some sound.short)

theorem Neutral.launch_controller (h : Neutral environment)
    (named : r.daemon = Directory.daemonPath) {more : List String}
    (printable : ∀ arg ∈ more, '\x00' ∉ arg.toList) :
    (controller (home host environment) r).launch
        ((controller (home host environment) r).arguments ++ more) =
      .ok (daemonLife host (home host environment).sources
        (Dvm.arguments r.graceMs r.unitMs ++ more)) := by
  change (home host environment).launch r.daemon (Dvm.arguments r.graceMs r.unitMs ++ more) = _
  rw [named]
  refine h.launch fun arg ha => ?_
  rcases List.mem_append.mp ha with own | other
  · exact Dvm.printable_arguments _ _ arg own
  · exact printable arg other

/-- A daemon that is launched with these arguments is a child of the check. -/
theorem Neutral.child (h : Neutral environment) (named : r.daemon = Directory.daemonPath)
    (scenario : Scenario)
    (printable : ∀ arg ∈ scenario.arguments, '\x00' ∉ arg.toList) {d : Daemon} {settings : Settings}
    {desk : Desk} (launched : Dvm.launch host (home host environment).sources
      (Dvm.arguments r.graceMs r.unitMs ++ scenario.arguments) = .ok d)
    (begun : d.Begun host settings desk) :
    ∃ b, (controller (home host environment) r).Launches scenario b ∧ EndsAs b d := by
  have same := endsAs_daemonLife launched
  exact ⟨_, ⟨Capability.check_current _, h.launch_controller named printable,
    reachable_daemonLife _ _ _, ⟨_, ready_daemonLife launched begun⟩,
    same.goesOn begun.works.exit?_of_none⟩, same⟩

/-- The daemon that most scenarios launch. -/
theorem Neutral.short_child (h : Neutral environment) (sound : Sensible r) (host : Host)
    (scenario : Scenario) (bare : scenario.arguments = []) :
    ∃ (d : Daemon) (b : Behaviour), d.Begun host (Dvm.settingsOf r.graceMs r.unitMs)
        (Dvm.deskOf (home host environment).sources r.graceMs r.unitMs) ∧
      (controller (home host environment) r).Launches scenario b ∧ EndsAs b d := by
  obtain ⟨d, launched, begun⟩ := Dvm.launch_of_durations (h.silent host)
    (Dvm.read_arguments r.graceMs r.unitMs) (Dvm.ofGiven_given _ _)
    sound.grace_ne_zero sound.unit_ne_zero
  obtain ⟨b, child⟩ := h.child sound.named scenario (by simp [bare])
    (by rwa [bare, List.append_nil]) begun
  exact ⟨d, b, begun, child⟩

/-- Units of work that take four times the grace period. -/
def longUnit (r : Request) : UInt64 := UInt64.ofNat (r.graceMs.toNat * 4)

theorem Sensible.toNat_longUnit (sound : Sensible r) :
    (longUnit r).toNat = r.graceMs.toNat * 4 := by
  have fits := sound.fits
  rw [longUnit, UInt64.toNat_ofNat', Nat.mod_eq_of_lt (by omega)]

theorem Sensible.longUnits (sound : Sensible r) :
    Scenario.longUnits (.ofMillis r.graceMs) = Dvm.longer (longUnit r) := by
  have written : toString (longUnit r) = toString (r.graceMs.toNat * 4) := by
    rw [← sound.toNat_longUnit]
    rfl
  rw [Scenario.longUnits, Duration.millisWord_ofMillis, Dvm.longer, written]

theorem Sensible.longUnit_ne_zero (sound : Sensible r) : longUnit r ≠ 0 := by
  refine ne_zero_of_toNat ?_
  have grace := Nat.lt_trans sound.some sound.short
  rw [sound.toNat_longUnit]
  omega

theorem Sensible.nanos_grace_lt (sound : Sensible r) :
    (Duration.ofMillis r.graceMs).nanos < (Duration.ofMillis (longUnit r)).nanos := by
  have grace := Nat.lt_trans sound.some sound.short
  refine Nat.mul_lt_mul_of_pos_left ?_ (by decide)
  rw [sound.toNat_longUnit]
  omega

/-- The daemon of the scenarios in which work outlasts the grace period. -/
theorem Neutral.long_child (h : Neutral environment) (sound : Sensible r) (host : Host)
    (scenario : Scenario) (long : scenario.arguments = Scenario.longUnits (.ofMillis r.graceMs)) :
    ∃ (d : Daemon) (b : Behaviour), d.Begun host (Dvm.settingsOf r.graceMs (longUnit r))
        (Dvm.deskOf (home host environment).sources r.graceMs (longUnit r)) ∧
      (controller (home host environment) r).Launches scenario b ∧ EndsAs b d := by
  have given : scenario.arguments = Dvm.longer (longUnit r) := long.trans sound.longUnits
  obtain ⟨d, launched, begun⟩ := Dvm.launch_of_durations (h.silent host)
    (Dvm.read_arguments_longer r.graceMs r.unitMs (longUnit r))
    (Dvm.ofGiven_longer _ _ _) sound.grace_ne_zero sound.longUnit_ne_zero
  obtain ⟨b, child⟩ := h.child sound.named scenario
    (given ▸ Dvm.printable_longer _) (given ▸ launched) begun
  exact ⟨d, b, begun, child⟩

end Cli.Check

end Quiesce

import Mathlib.Algebra.BigOperators.Intervals
import ScriptedInput.Proofs.Recording.Framing

/-! The pace of a replay. Delays count whole milliseconds, yet what they leave out is never lost: since
the last restart of the clock they add up to the time recorded, rounded down once. -/
namespace ScriptedInput

/-- The delays, in milliseconds, before each injection and since the one before it. -/
def pauses : List Event → List (List Nat)
  | [] => []
  | e :: es => match e.action, pauses es with
    | .inject _, ps => [] :: ps
    | .delay millis, p :: ps => (millis.toNat :: p) :: ps
    | _, ps => ps

/-- The times of frames in microseconds, and the delays in milliseconds before each. -/
structure Timeline where
  time : Nat → Nat
  pause : Nat → List Nat

namespace Timeline

def ofEvents (fs : List TimedFrame) (events : List Event) : Timeline where
  time k := (fs.map (·.1)).getD k 0
  pause k := (pauses events).getD k []

variable (l : Timeline)

/-- The milliseconds waited after frame `r` and before the delays of frame `k`. -/
def waited (r k : Nat) : Nat := ∑ j ∈ Finset.Ioo r k, (l.pause j).sum

/-- Frame `k` lies before the time that the replay has come to since frame `r`. -/
def Behind (r k : Nat) : Prop := l.time k < l.time r + 1000 * l.waited r k

instance (r k : Nat) : Decidable (l.Behind r k) := inferInstanceAs (Decidable (_ < _))

def lastRestart : Nat → Nat
  | 0 => 0
  | k + 1 => if l.Behind (lastRestart k) k then k else lastRestart k

/-- The first frame is a restart, and so is each that lies behind since the restart before it. -/
def IsRestart (k : Nat) : Prop := k = 0 ∨ l.Behind (l.lastRestart k) k

/-- The first `n` frames come after the time that was recorded since the last restart, up to less than
a millisecond. -/
structure KeepsTime (n : Nat) : Prop where
  restart : ∀ k < n, l.IsRestart k → l.pause k = []
  exact : ∀ k < n, ¬ l.IsRestart k → l.time (l.lastRestart k) ≤ l.time k ∧
    ∑ j ∈ Finset.Ioc (l.lastRestart k) k, (l.pause j).sum =
      (l.time k - l.time (l.lastRestart k)) / 1000
  steady : (∀ i j, i ≤ j → j < n → l.time i ≤ l.time j) →
    ∀ k < n, ∑ j ∈ Finset.range (k + 1), (l.pause j).sum = (l.time k - l.time 0) / 1000

def clock : Nat → Option Nat
  | 0 => none
  | k + 1 => some (Recording.clockAfter (clock k) (l.time k))

def Paced (n : Nat) : Prop := ∀ k < n, l.pause k = Recording.pauseBefore (l.clock k) (l.time k)

end Timeline

namespace Recording

private theorem sum_pauseBefore (clock time : Nat) :
    (pauseBefore (some clock) time).sum = (time - clock) / 1000 := by
  by_cases h : 1 ≤ (time - clock) / 1000
  · simp [pauseBefore, h]
  · have hz : (time - clock) / 1000 = 0 := by omega
    simp [pauseBefore, hz]

private theorem pauseBefore_eq_nil {clock time : Nat} (h : time < clock) :
    pauseBefore (some clock) time = [] := by
  have hz : time - clock = 0 := by omega
  simp [pauseBefore, hz]

private theorem clockAfter_le (clock : Option Nat) (time : Nat) : clockAfter clock time ≤ time := by
  cases clock with
  | none => exact le_rfl
  | some c =>
    simp only [clockAfter]
    split <;> omega

end Recording

namespace Timeline
variable {l : Timeline} {n : Nat}

private theorem lastRestart_lt (k : Nat) : l.lastRestart (k + 1) < k + 1 := by
  induction k with
  | zero =>
    rw [lastRestart]
    split <;> exact Nat.zero_lt_one
  | succ k ih =>
    rw [lastRestart]
    split <;> omega

private theorem waited_self_succ (k : Nat) : l.waited k (k + 1) = 0 := by
  have none : Finset.Ioo k (k + 1) = ∅ := by
    ext j
    simp only [Finset.mem_Ioo, Finset.notMem_empty, iff_false]
    omega
  rw [waited, none, Finset.sum_empty]

/-- What is waited up to a frame, with its own delays. -/
private theorem sum_Ioc_pause {r k : Nat} (h : r < k) :
    ∑ j ∈ Finset.Ioc r k, (l.pause j).sum = l.waited r k + (l.pause k).sum := by
  rw [← Finset.Ioo_insert_right h, Finset.sum_insert Finset.right_notMem_Ioo, waited,
    Nat.add_comm]

private theorem waited_succ {r k : Nat} (h : r < k) :
    l.waited r (k + 1) = l.waited r k + (l.pause k).sum := by
  have same : Finset.Ioo r (k + 1) = Finset.Ioc r k := by
    ext j
    simp only [Finset.mem_Ioo, Finset.mem_Ioc]
    omega
  rw [← sum_Ioc_pause h, waited, same]

/-- The replay clock stands where the replay has come to since the last restart. -/
private theorem clock_eq (h : l.Paced n) {k : Nat} (hk : k < n) :
    l.clock (k + 1) = some (l.time (l.lastRestart (k + 1)) +
      1000 * l.waited (l.lastRestart (k + 1)) (k + 1)) := by
  induction k with
  | zero =>
    have first : l.lastRestart 1 = 0 := Nat.lt_one_iff.mp (lastRestart_lt 0)
    rw [first, waited_self_succ]
    rfl
  | succ k ih =>
    have hr := lastRestart_lt (l := l) k
    have before := ih (by omega)
    by_cases hb : l.Behind (l.lastRestart (k + 1)) (k + 1)
    · have latest : l.lastRestart (k + 2) = k + 1 := by rw [lastRestart, if_pos hb]
      rw [Behind] at hb
      rw [latest, waited_self_succ, clock, before, Recording.clockAfter, if_pos hb]
      rfl
    · have latest : l.lastRestart (k + 2) = l.lastRestart (k + 1) := by
        rw [lastRestart, if_neg hb]
      have paused : (l.pause (k + 1)).sum = (l.time (k + 1) - (l.time (l.lastRestart (k + 1)) +
          1000 * l.waited (l.lastRestart (k + 1)) (k + 1))) / 1000 := by
        rw [h (k + 1) hk, before, Recording.sum_pauseBefore]
      rw [Behind] at hb
      rw [latest, waited_succ hr, paused, clock, before, Recording.clockAfter, if_neg hb,
        Option.some.injEq]
      omega

private theorem pause_of_isRestart (h : l.Paced n) {k : Nat} (hk : k < n) (hr : l.IsRestart k) :
    l.pause k = [] := by
  cases k with
  | zero => exact h 0 hk
  | succ k =>
    have hb := hr.resolve_left (by omega)
    rw [h (k + 1) hk, clock_eq h (Nat.lt_of_succ_lt hk), Recording.pauseBefore_eq_nil hb]

/-- Since the last restart exactly the time recorded is waited, rounded down to milliseconds. -/
private theorem sum_pause_eq (h : l.Paced n) {k : Nat} (hk : k < n) (hr : ¬ l.IsRestart k) :
    l.time (l.lastRestart k) ≤ l.time k ∧
      ∑ j ∈ Finset.Ioc (l.lastRestart k) k, (l.pause j).sum =
        (l.time k - l.time (l.lastRestart k)) / 1000 := by
  cases k with
  | zero => exact absurd (.inl rfl) hr
  | succ k =>
    have hb : ¬ l.Behind (l.lastRestart (k + 1)) (k + 1) := fun hb => hr (.inr hb)
    rw [Behind] at hb
    rw [sum_Ioc_pause (lastRestart_lt k), h (k + 1) hk, clock_eq h (Nat.lt_of_succ_lt hk),
      Recording.sum_pauseBefore]
    omega

/-- While times do not go back, no frame but the first is a restart: the clock is never ahead of the
frame before. -/
private theorem not_behind_of_steady (h : l.Paced n)
    (steady : ∀ i j, i ≤ j → j < n → l.time i ≤ l.time j) {k : Nat} (hk : k + 1 < n) :
    ¬ l.Behind (l.lastRestart (k + 1)) (k + 1) := by
  intro hb
  have clock := clock_eq h (Nat.lt_of_succ_lt hk)
  have ahead := Recording.clockAfter_le (l.clock k) (l.time k)
  rw [Timeline.clock, Option.some.injEq] at clock
  rw [clock] at ahead
  exact absurd (lt_of_lt_of_le hb ahead) (Nat.not_lt.mpr (steady k (k + 1) (by omega) hk))

private theorem lastRestart_of_steady (h : l.Paced n)
    (steady : ∀ i j, i ≤ j → j < n → l.time i ≤ l.time j) {k : Nat} (hk : k ≤ n) :
    l.lastRestart k = 0 := by
  induction k with
  | zero => rfl
  | succ k ih =>
    rw [lastRestart, ih (by omega)]
    split
    · next hb =>
      cases k with
      | zero => rfl
      | succ k =>
        rw [← ih (by omega)] at hb
        exact absurd hb (not_behind_of_steady h steady hk)
    · rfl

private theorem sum_pause_of_steady (h : l.Paced n)
    (steady : ∀ i j, i ≤ j → j < n → l.time i ≤ l.time j) {k : Nat} (hk : k < n) :
    ∑ j ∈ Finset.range (k + 1), (l.pause j).sum = (l.time k - l.time 0) / 1000 := by
  have first : l.pause 0 = [] := pause_of_isRestart h (by omega) (.inl rfl)
  cases k with
  | zero => simp [first]
  | succ k =>
    have going : ¬ l.IsRestart (k + 1) := by
      rintro (h0 | hb)
      · omega
      · exact not_behind_of_steady h steady hk hb
    have exact := (sum_pause_eq h hk going).2
    rw [lastRestart_of_steady h steady (by omega)] at exact
    have split : Finset.range (k + 2) = insert 0 (Finset.Ioc 0 (k + 1)) := by
      ext j
      simp only [Finset.mem_range, Finset.mem_insert, Finset.mem_Ioc]
      omega
    rw [split, Finset.sum_insert Finset.left_notMem_Ioc, exact, first, List.sum_nil, Nat.zero_add]

theorem Paced.keepsTime (h : l.Paced n) : l.KeepsTime n where
  restart _ := pause_of_isRestart h
  exact _ := sum_pause_eq h
  steady times _ := sum_pause_of_steady h times

end Timeline

namespace Recording

def pausesFrom : Option Nat → List Nat → List (List Nat)
  | _, [] => []
  | clock, t :: ts => pauseBefore clock t :: pausesFrom (some (clockAfter clock t)) ts

theorem pauses_replay {fs : List TimedFrame} (ht : Timely fs) (clock : Option Nat) :
    pauses (replay clock fs) = pausesFrom clock (fs.map (·.1)) := by
  induction fs generalizing clock with
  | nil => rfl
  | cons f fs ih =>
    obtain ⟨hf, hfs⟩ := List.forall_mem_cons.mp ht
    simp only [List.map_cons, pausesFrom, replay, ← ih hfs]
    rcases pauseBefore_cases clock f.1 with hp | ⟨-, m, -, hm, hp⟩
    · rw [hp]
      rfl
    · have fits : (UInt64.ofNat m).toNat = m := UInt64.toNat_ofNat_of_lt' (by omega)
      simp [hp, pauses, delayEvent, injectEvent, fits]

/-- The clock before each frame. -/
private theorem getD_pausesFrom (clock : Option Nat) (ts : List Nat) (c : Nat → Option Nat)
    (h0 : c 0 = clock) (hc : ∀ k, c (k + 1) = some (clockAfter (c k) (ts.getD k 0))) {k : Nat}
    (hk : k < ts.length) :
    (pausesFrom clock ts).getD k [] = pauseBefore (c k) (ts.getD k 0) := by
  induction ts generalizing clock c k with
  | nil => simp at hk
  | cons t ts ih =>
    cases k with
    | zero => simp [pausesFrom, h0]
    | succ k =>
      have later := ih (some (clockAfter clock t)) (fun k => c (k + 1))
        (by rw [hc, h0]; rfl) (fun k => by rw [hc]; rfl) (k := k) (by simpa using hk)
      simpa [pausesFrom] using later

theorem length_pausesFrom (clock : Option Nat) (ts : List Nat) :
    (pausesFrom clock ts).length = ts.length := by
  induction ts generalizing clock with
  | nil => rfl
  | cons t ts ih => simp [pausesFrom, ih]

def add64? (a b : Nat) : Option Nat := if a + b < UInt64.size then some (a + b) else none

def mul64? (a b : Nat) : Option Nat := if a * b < UInt64.size then some (a * b) else none

def sub64? (a b : Nat) : Option Nat := if b ≤ a then some (a - b) else none

/-- A frame put on the replay clock in arithmetic of 64 bits. There is no answer where a difference, a
product or a sum does not fit. -/
def schedule64? (clock : Option Nat) (f : EventFrame) : Option Scheduled :=
  match clock with
  | none => some ⟨[], [injectEvent f.events], f.timestamp⟩
  | some clock =>
    if f.timestamp < clock then
      some ⟨[.clockRestart f.line f.timestamp clock], [injectEvent f.events], f.timestamp⟩
    else do
      let passed ← sub64? f.timestamp clock
      let millis := passed / 1000
      if delayThreshold ≤ millis then
        let waited ← mul64? millis 1000
        let clock ← add64? clock waited
        return ⟨[], [delayEvent millis, injectEvent f.events], clock⟩
      else return ⟨[], [injectEvent f.events], clock⟩

/-- Nothing overflows on the way to a frame whose time fits 64 bits. -/
theorem schedule64?_eq {clock : Option Nat} {f : EventFrame} (hf : f.timestamp < UInt64.size) :
    schedule64? clock f = some (schedule clock f) := by
  cases clock with
  | none => rfl
  | some c =>
    by_cases hb : f.timestamp < c
    · simp [schedule64?, schedule, injectEvent, hb]
    · have passed : sub64? f.timestamp c = some (f.timestamp - c) := if_pos (Nat.le_of_not_lt hb)
      have fits : c + (f.timestamp - c) / 1000 * 1000 ≤ f.timestamp := by omega
      have waited : mul64? ((f.timestamp - c) / 1000) 1000 =
          some ((f.timestamp - c) / 1000 * 1000) := if_pos (by omega)
      have after : add64? c ((f.timestamp - c) / 1000 * 1000) =
          some (c + (f.timestamp - c) / 1000 * 1000) := if_pos (Nat.lt_of_le_of_lt fits hf)
      by_cases hd : delayThreshold ≤ (f.timestamp - c) / 1000
      · simp [schedule64?, schedule, hb, hd, passed, waited, after, delayEvent, injectEvent]
      · simp [schedule64?, schedule, hb, hd, passed, injectEvent]

/-- Frames have times that fit 64 bits. -/
theorem timestamp_lt_of_readFrame {count : Nat} {failure : Option IoError}
    {begun : Option EventFrame} {lines rest : List Line} {f : EventFrame}
    (hb : ∀ g ∈ begun, g.timestamp < UInt64.size)
    (hf : readFrame count failure begun lines = .ok (some f, rest)) :
    f.timestamp < UInt64.size := by
  induction lines generalizing begun with
  | nil =>
    unfold readFrame at hf
    split at hf
    · simp at hf
    · cases begun with
      | none => simp at hf
      | some g =>
        obtain ⟨rfl, -⟩ := by simpa using hf
        exact hb g rfl
  | cons line lines ih =>
    unfold readFrame at hf
    split at hf
    · simp at hf
    · next e he =>
      have told := (eventOfLine_eq_ok_iff.mp he).lt
      have begun' : (addEvent begun line e).timestamp < UInt64.size := by
        cases begun with
        | none => exact told
        | some g => exact hb g rfl
      dsimp only at hf
      split at hf
      · obtain ⟨rfl, -⟩ := by simpa using hf
        exact begun'
      · exact ih (by simpa using begun') hf

def ClockFits (r : Recording) : Prop :=
  ∀ f rest, readFrame r.lines.count r.lines.failure none r.lines.lines = .ok (some f, rest) →
    schedule64? r.clock f = some (schedule r.clock f)

end Recording

/-- The timeline of a recording is paced by the replay clock. -/
theorem Timeline.paced_ofEvents {fs : List TimedFrame} {events : List Event}
    (h : pauses events = Recording.pausesFrom none (fs.map (·.1))) :
    (Timeline.ofEvents fs events).Paced fs.length := by
  intro k hk
  have clocked := Recording.getD_pausesFrom none (fs.map (·.1))
    (Timeline.ofEvents fs events).clock rfl (fun _ => rfl) (k := k) (by simpa using hk)
  rw [← h] at clocked
  exact clocked

/-- The events inject the frames that the event lines of a script tell of, each at its time. -/
def InTime (s : Source) (events : List Event) : Prop :=
  ∃ es, TellOf s.eventLines es ∧ batches events = (frames es).map (·.2) ∧
    (pauses events).length = (frames es).length ∧
    (Timeline.ofEvents (frames es) events).KeepsTime (frames es).length

/-- A replay does not drift. On every recording that can be read to the end, a frame at which the clock
restarts has no delay before it, and the delays since the latest restart add up to exactly the time
recorded since then, rounded down to whole milliseconds; if times never go back, that is the time since
the first frame. However far a recording has come, its clock keeps within 64 bits. -/
theorem replay_does_not_drift {s : Source} {events : List Event}
    (h : (Script.ofSource .evemu s).events = .ok events) :
    InTime s events ∧ ∀ r : Recording, r.ClockFits := by
  obtain ⟨registration, es, told, rfl⟩ := Recording.events_of_eventLines h
  have paused := Recording.pauses_replay told.timely none
  refine ⟨⟨es, told, Recording.batches_replay none _, ?_, ?_⟩, ?_⟩
  · exact (congrArg List.length paused).trans (by simp [Recording.length_pausesFrom])
  · exact (Timeline.paced_ofEvents paused).keepsTime
  · intro r f rest hf
    exact Recording.schedule64?_eq (Recording.timestamp_lt_of_readFrame (by simp) hf)

def rewound : Source :=
  ⟨[Text.encode ("N: k
I: 0003 1234 5678 0111
E: 5.000000 0000 0000 0
" ++
    "E: 2.000000 0000 0000 0
E: 2.003700 0000 0000 0
E: 2.004500 0000 0000 0
")], none⟩

theorem rewound_in_time : ∃ events, (Script.ofSource .evemu rewound).events = .ok events ∧
    InTime rewound events ∧ ∀ r : Recording, r.ClockFits := by
  have read : (Script.ofSource .evemu rewound).events =
      .ok [⟨1, .register { name := "k", vendor := 0x1234, product := 0x5678, version := 0x111 }⟩,
        ⟨1, .inject [⟨0, 0, 0⟩]⟩, ⟨1, .inject [⟨0, 0, 0⟩]⟩, ⟨1, .delay 3⟩, ⟨1, .inject [⟨0, 0, 0⟩]⟩,
        ⟨1, .delay 1⟩, ⟨1, .inject [⟨0, 0, 0⟩]⟩] := by
    exact Script.events_of_feedWithin? (n := 8) (by decide +kernel)
  exact ⟨_, read, replay_does_not_drift read⟩

end ScriptedInput

import Tftp.Net.Clock
import Tftp.Proofs.Config.Loading
import Mathlib

/-!
# Timing a wait

Before each wait for a packet a session computes two things: its socket's receive window, the
timeout once for each attempt, and the wait's deadline, the clock's reading plus the window. Both
are exact in nanoseconds wherever they do not panic (`Duration.mul_map_toNanos`,
`Instant.add_map_toNanos`), and they panic exactly where the window passes 64-bit seconds or the
deadline passes the largest signed 64-bit count of seconds.

The loaders accept every timeout below `2 ^ 64` milliseconds and every count of attempts below
`2 ^ 32`, so both panics are reachable from a settings file: the window of the largest ones has
about `2 ^ 96` milliseconds, and a window of `2 ^ 63` seconds panics at every reading of the clock.
`loaded_receive_timing` states when a session waits and when it panics, for every settings file
and environment; `largest_settings_overflow_window` is a file whose settings panic.
-/

namespace Tftp.Net

namespace Duration

theorem toNanos_ofMillis (ms : UInt64) : (ofMillis ms).toNanos = ms.toNat * 1000000 := by
  simp only [toNanos, ofMillis, UInt64.toNat_div, UInt64.toNat_mod, nanosPerSecond]
  simp only [UInt64.reduceToNat]
  omega

/-- Multiplying a span by a count is exact in nanoseconds, and panics exactly where the product
passes `2 ^ 64` seconds. -/
theorem mul_map_toNanos (d : Duration) (r : UInt32) :
    (d.mul r).map toNanos =
      if d.toNanos * r.toNat < 2 ^ 64 * nanosPerSecond then .ok (d.toNanos * r.toNat)
      else .error mulOverflow := by
  -- the product's seconds are its nanoseconds over a billion, the rest its nanoseconds
  have htotal : d.toNanos * r.toNat =
      (d.secs.toNat * r.toNat) * nanosPerSecond + d.nanos.val * r.toNat := by
    rw [toNanos]
    ring
  have hfit_iff : d.secs.toNat * r.toNat + d.nanos.val * r.toNat / nanosPerSecond < UInt64.size ↔
      d.toNanos * r.toNat < 2 ^ 64 * nanosPerSecond := by
    rw [htotal]
    generalize d.secs.toNat * r.toNat = q
    generalize d.nanos.val * r.toNat = p
    simp only [nanosPerSecond, UInt64.size]
    omega
  unfold mul
  dsimp only
  by_cases hfit : d.secs.toNat * r.toNat + d.nanos.val * r.toNat / nanosPerSecond < UInt64.size
  · rw [if_pos hfit, if_pos (hfit_iff.1 hfit), htotal]
    simp only [Except.map, toNanos, Nat.toUInt64_eq, UInt64.toNat_ofNat', Except.ok.injEq]
    generalize d.secs.toNat * r.toNat = q at *
    generalize d.nanos.val * r.toNat = p at *
    simp only [nanosPerSecond, UInt64.size] at hfit ⊢
    rw [Nat.mod_eq_of_lt (by omega)]
    omega
  · rw [if_neg hfit, if_neg (mt hfit_iff.2 hfit)]
    rfl

end Duration

namespace Instant

/-- Moving a reading by a span is exact in nanoseconds, and panics exactly where the result
passes `2 ^ 63` seconds. -/
theorem add_map_toNanos (t : Instant) (d : Duration) :
    (t.add d).map toNanos =
      if t.toNanos + d.toNanos < 2 ^ 63 * nanosPerSecond then .ok (t.toNanos + d.toNanos)
      else .error addOverflow := by
  -- the seconds add up with the carry of the nanoseconds, which are below two seconds together
  have hsum : t.toNanos + d.toNanos =
      (t.secs.val + d.secs.toNat) * nanosPerSecond + (t.nanos.val + d.nanos.val) := by
    rw [toNanos, Duration.toNanos]
    ring
  have hnanos : t.nanos.val + d.nanos.val < 2 * nanosPerSecond := by
    have := t.nanos.isLt
    have := d.nanos.isLt
    omega
  have hfit_iff : t.secs.val + d.secs.toNat + (t.nanos.val + d.nanos.val) / nanosPerSecond <
      Nat.pow 2 63 ↔ t.toNanos + d.toNanos < 2 ^ 63 * nanosPerSecond := by
    rw [hsum]
    generalize t.secs.val + d.secs.toNat = q
    generalize t.nanos.val + d.nanos.val = p at hnanos
    simp only [nanosPerSecond, Nat.pow_eq] at hnanos ⊢
    omega
  unfold add
  dsimp only
  by_cases hfit : t.secs.val + d.secs.toNat + (t.nanos.val + d.nanos.val) / nanosPerSecond <
      Nat.pow 2 63
  · rw [dif_pos hfit, if_pos (hfit_iff.1 hfit), hsum]
    simp only [Except.map, toNanos, Except.ok.injEq]
    generalize t.secs.val + d.secs.toNat = q at *
    generalize t.nanos.val + d.nanos.val = p at *
    simp only [nanosPerSecond] at hnanos ⊢
    omega
  · rw [dif_neg hfit, if_neg (mt hfit_iff.2 hfit)]
    rfl

end Instant

end Tftp.Net

namespace Tftp.Config

open Tftp.Net

variable {t : TransferSettings}

/-- Within the loaders' ranges the socket's window is the timeout times the attempts, exact in
nanoseconds, and panics exactly where it reaches `2 ^ 64` seconds. -/
theorem TransferSettings.receiveSpan_map_toNanos (ht : t.InRange) :
    t.receiveSpan.map Duration.toNanos =
      if t.receiveWindow < 2 ^ 64 * 1000 then .ok (t.receiveWindow * 1000000)
      else .error Duration.mulOverflow := by
  have hms : t.timeoutMs.toUInt64.toNat = t.timeoutMs := by
    have := ht.timeoutMs_lt
    simp only [Nat.toUInt64_eq, UInt64.toNat_ofNat']
    omega
  have htries : (max t.recvTries 1).toUInt32.toNat = max t.recvTries 1 := by
    have := ht.recvTries_lt
    simp only [Nat.toUInt32_eq, UInt32.toNat_ofNat']
    omega
  unfold receiveSpan
  rw [Duration.mul_map_toNanos, Duration.toNanos_ofMillis, hms, htries]
  -- the window in milliseconds, scaled to nanoseconds on both sides
  have hwindow : t.timeoutMs * 1000000 * max t.recvTries 1 = t.receiveWindow * 1000000 := by
    rw [receiveWindow]
    ring
  rw [hwindow]
  have hiff : t.receiveWindow * 1000000 < 2 ^ 64 * nanosPerSecond ↔
      t.receiveWindow < 2 ^ 64 * 1000 := by
    simp only [nanosPerSecond]
    omega
  exact if_congr hiff rfl rfl

/-- Within the loaders' ranges a wait that starts at `now` ends `now` plus the window later,
exact in nanoseconds; it panics where the window reaches `2 ^ 64` seconds, or else where the
deadline reaches `2 ^ 63` seconds. -/
theorem TransferSettings.receiveDeadline_map_toNanos (ht : t.InRange) (now : Instant) :
    (t.receiveDeadline now).map Instant.toNanos =
      if t.receiveWindow < 2 ^ 64 * 1000 then
        if now.toNanos + t.receiveWindow * 1000000 < 2 ^ 63 * nanosPerSecond then
          .ok (now.toNanos + t.receiveWindow * 1000000)
        else .error Instant.addOverflow
      else .error Duration.mulOverflow := by
  have hspan := t.receiveSpan_map_toNanos ht
  unfold receiveDeadline
  cases hs : t.receiveSpan with
  | error e =>
    rw [hs] at hspan
    by_cases hfit : t.receiveWindow < 2 ^ 64 * 1000
    · rw [if_pos hfit] at hspan
      cases hspan
    · rw [if_neg hfit] at hspan
      rw [if_neg hfit]
      exact hspan
  | ok d =>
    rw [hs] at hspan
    by_cases hfit : t.receiveWindow < 2 ^ 64 * 1000
    · rw [if_pos hfit] at hspan
      have hd : d.toNanos = t.receiveWindow * 1000000 := Except.ok.inj hspan
      rw [if_pos hfit, ← hd]
      exact Instant.add_map_toNanos now d
    · rw [if_neg hfit] at hspan
      cases hspan

/-- How settings time a wait that starts at `now`, in nanoseconds: the socket's window and the
wait's deadline are exact wherever they do not panic, and each panics exactly where its seconds
overflow. -/
structure ReceiveTiming (t : TransferSettings) (now : Instant) : Prop where
  span : t.receiveSpan.map Duration.toNanos =
    if t.receiveWindow < 2 ^ 64 * 1000 then .ok (t.receiveWindow * 1000000)
    else .error Duration.mulOverflow
  deadline : (t.receiveDeadline now).map Instant.toNanos =
    if t.receiveWindow < 2 ^ 64 * 1000 then
      if now.toNanos + t.receiveWindow * 1000000 < 2 ^ 63 * nanosPerSecond then
        .ok (now.toNanos + t.receiveWindow * 1000000)
      else .error Instant.addOverflow
    else .error Duration.mulOverflow

/-- A wait panics neither in its window nor in its deadline exactly when the deadline is below
`2 ^ 63` seconds: a window past `2 ^ 64` seconds puts the deadline past them anyway. -/
theorem ReceiveTiming.waits_iff {now : Instant} (h : ReceiveTiming t now) :
    (∃ d, t.receiveDeadline now = .ok d) ↔
      now.toNanos + t.receiveWindow * 1000000 < 2 ^ 63 * nanosPerSecond := by
  have hd := h.deadline
  cases hx : t.receiveDeadline now with
  | error e =>
    rw [hx] at hd
    simp only [reduceCtorEq, exists_false, false_iff, not_lt]
    split_ifs at hd with hspan hsum
    · cases hd
    · omega
    · simp only [nanosPerSecond] at hspan ⊢
      omega
  | ok d =>
    rw [hx] at hd
    simp only [Except.ok.injEq, exists_eq', true_iff]
    split_ifs at hd with hspan hsum
    · exact hsum
    · cases hd
    · cases hd

theorem TransferSettings.receiveTiming_of_inRange (ht : t.InRange) (now : Instant) :
    ReceiveTiming t now :=
  ⟨receiveSpan_map_toNanos ht, receiveDeadline_map_toNanos ht now⟩

/-- Whatever settings file and environment a server or a client loads, and whenever its wait
starts, its receive window and deadline follow `ReceiveTiming`: exact where they fit, a panic
where they do not. -/
theorem loaded_receive_timing (file : Option String) (env : Env) (now : Instant) :
    ReceiveTiming (ServerSettings.load file env).transfer now ∧
      ReceiveTiming (ClientSettings.load file env).transfer now :=
  ⟨TransferSettings.receiveTiming_of_inRange (TransferSettings.inRange_serverLoad file env) now,
    TransferSettings.receiveTiming_of_inRange (TransferSettings.inRange_clientLoad file env) now⟩

/-- A settings file with the largest timeout and the most attempts. -/
def largestTransferFile : String :=
  "\x7b\"transfer\":\x7b\"timeout_ms\":18446744073709551615,\"recv_tries\":4294967295\x7d\x7d"

/-- The loaders accept the largest timeout and the most attempts, and with them a server's socket
and every wait it starts panic: the window has about `2 ^ 96` milliseconds. -/
theorem largest_settings_overflow_window :
    (ServerSettings.load (some largestTransferFile) fun _ => none).transfer =
        ⟨18446744073709551615, 4294967295, 3⟩ ∧
      (ServerSettings.load (some largestTransferFile) fun _ => none).transfer.receiveSpan =
        .error Duration.mulOverflow ∧
      ∀ now, (ServerSettings.load (some largestTransferFile) fun _ => none).transfer.receiveDeadline
        now = .error Duration.mulOverflow := by
  have hload : (ServerSettings.load (some largestTransferFile) fun _ => none).transfer =
      ⟨18446744073709551615, 4294967295, 3⟩ := by
    decide +kernel
  have hspan : (TransferSettings.receiveSpan ⟨18446744073709551615, 4294967295, 3⟩) =
      .error Duration.mulOverflow := by
    decide
  refine ⟨hload, by rw [hload, hspan], fun now => ?_⟩
  rw [hload, TransferSettings.receiveDeadline, hspan]
  rfl

end Tftp.Config

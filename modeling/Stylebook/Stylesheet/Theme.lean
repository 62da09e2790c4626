import Stylebook.Stylesheet.Compile
import Stylebook.Theme

/-!
The custom properties of a flat theme as a stylesheet.
-/

namespace Stylebook

def FlatTheme.css (t : FlatTheme) (mode : DarkMode) : String :=
  let root := Block.text (.rule (t.layer.tokens.rootRule t.layer.pre))
  if t.layer.darkTokens.isEmpty then root
  else paragraphs
    [root, paragraphs ((mode.blocks t.layer.darkTokens t.layer.pre).map Block.text)]

/-- The stylesheet of a flat theme, if the values of the tokens that it shows can be written. -/
def FlatTheme.stylesheet (t : FlatTheme) (mode : DarkMode) : Except Unfit String :=
  Unfit.guard
    (Unfit.unlessShort (t.layer.tokens.areWritable && (mode == .off || t.layer.darkTokens.areWritable)))
    (t.css mode)

end Stylebook

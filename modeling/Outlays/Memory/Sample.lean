import Outlays.Call
import Outlays.Memory.Stores

/-!
# Sample stores

What a service knows when neither a database nor a search index is set up: the codes of disaster
spending and the last closed windows, and otherwise nothing.
-/

namespace Outlays

/-- Stores for trying out a service. -/
def Stores.sample : Stores where
  defCodes := ["L", "M", "N", "O", "P", "U", "V"]
  closed := { quarterly := some ⟨2021, 2⟩, monthly := some ⟨2021, 6⟩ }

/-- A leap day, and public files under an address without a path. -/
def Circumstances.sample : Circumstances where
  now := ⟨⟨2024, 2, 29, by decide, by decide, by decide⟩, 32400, 0, by decide, by decide⟩
  files := ⟨['h', 't', 't', 'p', 's'], some ⟨none, ['f'], none⟩, .rooted ['/'], none, none⟩
  downloadLimit := 500000

end Outlays

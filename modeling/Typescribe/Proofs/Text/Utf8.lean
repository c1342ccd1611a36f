/-
Different texts have different bytes.
-/
import Typescribe.Text.Utf8

namespace Typescribe.Utf8

theorem encode_injective {s t : Text} (h : encode s = encode t) : s = t := by
  have hbytes : s.utf8Encode = t.utf8Encode := congrArg List.toByteArray h
  exact String.ofList_injective (String.toByteArray_inj.1 hbytes)

end Typescribe.Utf8

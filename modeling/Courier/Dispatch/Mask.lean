/-!
# Masked tokens

In logs a device token shows only its first and its last third.
-/

namespace Courier

/-- What a log shows of a token. Model of `mask_token`. -/
def maskToken (token : String) : String :=
  let chars := token.toList
  let third := chars.length / 3
  if third = 0 then ""
  else
    String.ofList (chars.take third) ++ "..." ++ String.ofList (chars.drop (chars.length - third))

end Courier

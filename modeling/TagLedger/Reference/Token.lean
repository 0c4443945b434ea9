/-!
# Reference tokens

A formula embeds a content asset by a token `[KIND:key]`.  A kind is an ASCII letter followed by
ASCII letters, digits or `_`; a key is one or more ASCII letters, digits, `-`, `_` or `.`.
Everything else in a formula is ordinary text.
-/

namespace TagLedger.Reference

structure Token where
  kind : String
  key : String
  deriving DecidableEq, Repr

def isKindStart (character : Char) : Bool :=
  character.isAlpha

def isKindChar (character : Char) : Bool :=
  character.isAlphanum || character == '_'

def isKeyChar (character : Char) : Bool :=
  character.isAlphanum || character == '-' || character == '_' || character == '.'

def tokenAfterBracket : List Char → Option (Token × List Char)
  | [] => none
  | start :: text =>
      if isKindStart start then
        match text.dropWhile isKindChar with
        | ':' :: afterColon =>
            match afterColon.takeWhile isKeyChar, afterColon.dropWhile isKeyChar with
            | first :: key, ']' :: rest =>
                some (⟨String.ofList (start :: text.takeWhile isKindChar),
                  String.ofList (first :: key)⟩, rest)
            | _, _ => none
        | _ => none
      else none

theorem length_dropWhile_le (p : Char → Bool) (text : List Char) :
    (text.dropWhile p).length ≤ text.length :=
  (List.dropWhile_sublist p).length_le

theorem length_tokenAfterBracket {text rest : List Char} {token : Token}
    (h : tokenAfterBracket text = some (token, rest)) : rest.length < text.length := by
  cases text with
  | nil => simp [tokenAfterBracket] at h
  | cons start text =>
      simp only [tokenAfterBracket] at h
      split at h
      · split at h
        · next afterColon hcolon =>
            have hkind := length_dropWhile_le isKindChar text
            split at h
            · next hrest =>
                have hkey := length_dropWhile_le isKeyChar afterColon
                simp only [Option.some.injEq, Prod.mk.injEq] at h
                obtain ⟨-, rfl⟩ := h
                simp only [hcolon, hrest, List.length_cons] at hkind hkey ⊢
                omega
            · simp at h
        · simp at h
      · simp at h

def tokensOf : List Char → List Token
  | [] => []
  | character :: text =>
      if character = '[' then
        match _found : tokenAfterBracket text with
        | some (token, rest) => token :: tokensOf rest
        | none => tokensOf text
      else tokensOf text
termination_by text => text.length
decreasing_by
  · have := length_tokenAfterBracket _found
    simp only [List.length_cons]
    omega
  · simp
  · simp

def extractTokens (formula : String) : List Token :=
  tokensOf formula.toList

def referencesKey (formula key : String) : Bool :=
  (extractTokens formula).any (·.key == key)

end TagLedger.Reference

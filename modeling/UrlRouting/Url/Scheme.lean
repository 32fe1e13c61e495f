import UrlRouting.Text.Cut

/-! # Schemes

A URL with a scheme in front may belong to another program. A scheme is an ASCII letter with ASCII
letters, digits, and the characters `+`, `-`, and `.` after it; it ends at the first `://` of the
URL. -/

namespace UrlRouting.Url

/-- Whether a text is a scheme. -/
def isScheme : List Char → Bool
  | [] => false
  | c :: rest => c.isAlpha && rest.all fun c => c.isAlphanum || c == '+' || c == '-' || c == '.'

/-- Whether what stands before the first `://` of a URL is a scheme. -/
def hasScheme (url : String) : Bool := (Text.before? [':', '/', '/'] url.toList).any isScheme

end UrlRouting.Url

/-! The version of the library. -/
namespace QueryTemplate

def version : String := "1.0.0"

end QueryTemplate

import ClientGen.Text.Lines

/-! # Go templates

Templates of the files that make up a Go client package.
-/

namespace ClientGen.Target.Go

/-- The client. -/
def clientTemplate : String := Text.ofLines [
  "// Code generated by sdkgen. DO NOT EDIT.",
  "// Source: \x7b\x7b api.package \x7d\x7d (\x7b\x7b api.apiVersion \x7d\x7d)",
  "",
  "package \x7b\x7b goPackage \x7d\x7d",
  "",
  "import (",
  "\t\"context\"",
  "\t\"strings\"",
  "\t\"time\"",
  ")",
  "",
  "var (",
  "\t_ context.Context",
  "\t_ time.Time",
  ")",
  "",
  "// \x7b\x7b goExportedName(moduleName) \x7d\x7dClient calls the \x7b\x7b packageName \x7d\x7d API.",
  "type \x7b\x7b goExportedName(moduleName) \x7d\x7dClient struct \x7b",
  "\trpc *JSONRPCClient",
  "\x7d",
  "",
  "// New\x7b\x7b goExportedName(moduleName) \x7d\x7dClient returns a client for the server at endpoint.",
  "func New\x7b\x7b goExportedName(moduleName) \x7d\x7dClient(endpoint string) *\x7b\x7b goExportedName(moduleName) \x7d\x7dClient \x7b",
  "\treturn &\x7b\x7b goExportedName(moduleName) \x7d\x7dClient\x7brpc: NewJSONRPCClient(strings.TrimRight(endpoint, \"/\") + \"\x7b\x7b api.apiPath \x7d\x7d\")\x7d",
  "\x7d",
  "\x7b% for method in api.methods %\x7d",
  "",
  "\x7b% if method.description %\x7d",
  "\x7b\x7b docComment(goMethodName(method.name) ~ \" \" ~ method.description, \"//\") \x7d\x7d",
  "\x7b% endif %\x7d",
  "\x7b% if method.returns %\x7d",
  "func (c *\x7b\x7b goExportedName(moduleName) \x7d\x7dClient) \x7b\x7b goMethodName(method.name) \x7d\x7d(ctx context.Context\x7b% for p in method.params %\x7d, \x7b\x7b goParamName(p.name) \x7d\x7d \x7b\x7b goType(p.type) \x7d\x7d\x7b% endfor %\x7d) (\x7b\x7b goType(method.returns) \x7d\x7d, error) \x7b",
  "\x7b% else %\x7d",
  "func (c *\x7b\x7b goExportedName(moduleName) \x7d\x7dClient) \x7b\x7b goMethodName(method.name) \x7d\x7d(ctx context.Context\x7b% for p in method.params %\x7d, \x7b\x7b goParamName(p.name) \x7d\x7d \x7b\x7b goType(p.type) \x7d\x7d\x7b% endfor %\x7d) error \x7b",
  "\x7b% endif %\x7d",
  "\tparams := map[string]any\x7b",
  "\x7b% for p in method.params %\x7d",
  "\t\t\"\x7b\x7b p.name \x7d\x7d\": \x7b\x7b goParamName(p.name) \x7d\x7d,",
  "\x7b% endfor %\x7d",
  "\t\x7d",
  "\x7b% if method.returns %\x7d",
  "\tvar result \x7b\x7b goType(method.returns) \x7d\x7d",
  "\terr := c.rpc.Call(ctx, \"\x7b\x7b method.name \x7d\x7d\", params, &result)",
  "\treturn result, err",
  "\x7b% else %\x7d",
  "\treturn c.rpc.Call(ctx, \"\x7b\x7b method.name \x7d\x7d\", params, nil)",
  "\x7b% endif %\x7d",
  "\x7d",
  "\x7b% endfor %\x7d"]

/-- The types. -/
def typesTemplate : String := Text.ofLines [
  "// Code generated by sdkgen. DO NOT EDIT.",
  "// Source: \x7b\x7b types.package \x7d\x7d",
  "",
  "package \x7b\x7b goPackage \x7d\x7d",
  "",
  "import \"time\"",
  "",
  "var _ time.Time",
  "\x7b% for type in types.types %\x7d",
  "",
  "type \x7b\x7b goExportedName(type.name) \x7d\x7d struct \x7b",
  "\x7b% for field in type.fields %\x7d",
  "\t\x7b\x7b goExportedName(field.name) \x7d\x7d \x7b\x7b goFieldType(field.type, field.optional, field.list) \x7d\x7d \x60json:\"\x7b\x7b field.name \x7d\x7d\x7b\x7b \",omitempty\" if field.optional else \"\" \x7d\x7d\"\x60",
  "\x7b% endfor %\x7d",
  "\x7d",
  "\x7b% endfor %\x7d",
  "\x7b% for enum in types.enums %\x7d",
  "",
  "// \x7b\x7b goExportedName(enum.name) \x7d\x7d values.",
  "const (",
  "\x7b% for value in enum.values %\x7d",
  "\t\x7b\x7b goExportedName(enum.name) \x7d\x7d\x7b\x7b goExportedName(value.name) \x7d\x7d = \x7b\x7b literal(value.value) \x7d\x7d",
  "\x7b% endfor %\x7d",
  ")",
  "\x7b% endfor %\x7d"]

/-- The module file. -/
def goModTemplate : String := Text.ofLines [
  "module \x7b\x7b package \x7d\x7d",
  "",
  "go 1.21"]

/-- The JSON-RPC transport. -/
def transportTemplate : String := Text.ofLines [
  "// Code generated by sdkgen. DO NOT EDIT.",
  "",
  "package \x7b\x7b goPackage \x7d\x7d",
  "",
  "import (",
  "\t\"bytes\"",
  "\t\"context\"",
  "\t\"encoding/json\"",
  "\t\"fmt\"",
  "\t\"net/http\"",
  "\t\"sync/atomic\"",
  ")",
  "",
  "// JSONRPCError is an error object returned by the server.",
  "type JSONRPCError struct \x7b",
  "\tCode    int             \x60json:\"code\"\x60",
  "\tMessage string          \x60json:\"message\"\x60",
  "\tData    json.RawMessage \x60json:\"data,omitempty\"\x60",
  "\x7d",
  "",
  "func (e *JSONRPCError) Error() string \x7b",
  "\treturn fmt.Sprintf(\"jsonrpc error %d: %s\", e.Code, e.Message)",
  "\x7d",
  "",
  "// JSONRPCClient is a minimal JSON-RPC 2.0 client over HTTP.",
  "type JSONRPCClient struct \x7b",
  "\tendpoint string",
  "\thttp     *http.Client",
  "\tnextID   atomic.Uint64",
  "\x7d",
  "",
  "// NewJSONRPCClient returns a client posting to endpoint.",
  "func NewJSONRPCClient(endpoint string) *JSONRPCClient \x7b",
  "\treturn &JSONRPCClient\x7bendpoint: endpoint, http: http.DefaultClient\x7d",
  "\x7d",
  "",
  "// Call invokes method with params and decodes the result into result (if non-nil).",
  "func (c *JSONRPCClient) Call(ctx context.Context, method string, params any, result any) error \x7b",
  "\tbody, err := json.Marshal(map[string]any\x7b",
  "\t\t\"jsonrpc\": \"2.0\",",
  "\t\t\"id\":      c.nextID.Add(1),",
  "\t\t\"method\":  method,",
  "\t\t\"params\":  params,",
  "\t\x7d)",
  "\tif err != nil \x7b",
  "\t\treturn err",
  "\t\x7d",
  "\treq, err := http.NewRequestWithContext(ctx, http.MethodPost, c.endpoint, bytes.NewReader(body))",
  "\tif err != nil \x7b",
  "\t\treturn err",
  "\t\x7d",
  "\treq.Header.Set(\"Content-Type\", \"application/json\")",
  "\tresp, err := c.http.Do(req)",
  "\tif err != nil \x7b",
  "\t\treturn err",
  "\t\x7d",
  "\tdefer resp.Body.Close()",
  "",
  "\tvar decoded struct \x7b",
  "\t\tResult json.RawMessage \x60json:\"result\"\x60",
  "\t\tError  *JSONRPCError   \x60json:\"error\"\x60",
  "\t\x7d",
  "\tif err := json.NewDecoder(resp.Body).Decode(&decoded); err != nil \x7b",
  "\t\treturn err",
  "\t\x7d",
  "\tif decoded.Error != nil \x7b",
  "\t\treturn decoded.Error",
  "\t\x7d",
  "\tif result == nil || len(decoded.Result) == 0 \x7b",
  "\t\treturn nil",
  "\t\x7d",
  "\treturn json.Unmarshal(decoded.Result, result)",
  "\x7d"]

end ClientGen.Target.Go

import ClientGen.Text.Lines

/-! # Dart templates

Templates of the files that make up a Dart client package.
-/

namespace ClientGen.Target.Dart

/-- The client. -/
def clientTemplate : String := Text.ofLines [
  "// Code generated by sdkgen. DO NOT EDIT.",
  "// Source: \x7b\x7b api.package \x7d\x7d (\x7b\x7b api.apiVersion \x7d\x7d)",
  "",
  "import 'dart:typed_data';",
  "",
  "import 'src/json_rpc_client.dart';",
  "import 'types.dart';",
  "",
  "/// Client for the \x7b\x7b api.package \x7d\x7d API.",
  "class \x7b\x7b dartClassName(moduleName) \x7d\x7dClient \x7b",
  "  final JsonRpcClient _rpc;",
  "",
  "  \x7b\x7b dartClassName(moduleName) \x7d\x7dClient(String endpoint)",
  "      : _rpc = JsonRpcClient(endpoint + '\x7b\x7b api.apiPath \x7d\x7d');",
  "",
  "  /// Closes the underlying HTTP client.",
  "  void close() => _rpc.close();",
  "\x7b% for method in api.methods %\x7d",
  "",
  "\x7b% if method.description %\x7d",
  "\x7b\x7b docComment(method.description, \"  ///\") \x7d\x7d",
  "\x7b% endif %\x7d",
  "\x7b% if method.returns %\x7d",
  "  Future<\x7b\x7b dartType(method.returns) \x7d\x7d> \x7b\x7b dartMethodName(method.name) \x7d\x7d(\x7b% for p in method.params %\x7d\x7b\x7b dartType(p.type) \x7d\x7d \x7b\x7b dartParamName(p.name) \x7d\x7d\x7b\x7b \", \" if not loop.last else \"\" \x7d\x7d\x7b% endfor %\x7d) async \x7b",
  "\x7b% else %\x7d",
  "  Future<void> \x7b\x7b dartMethodName(method.name) \x7d\x7d(\x7b% for p in method.params %\x7d\x7b\x7b dartType(p.type) \x7d\x7d \x7b\x7b dartParamName(p.name) \x7d\x7d\x7b\x7b \", \" if not loop.last else \"\" \x7d\x7d\x7b% endfor %\x7d) async \x7b",
  "\x7b% endif %\x7d",
  "    final params = <String, dynamic>\x7b",
  "\x7b% for p in method.params %\x7d",
  "      '\x7b\x7b p.name \x7d\x7d': \x7b\x7b dartParamName(p.name) \x7d\x7d,",
  "\x7b% endfor %\x7d",
  "    \x7d;",
  "\x7b% if method.returns %\x7d",
  "    return await _rpc.call<\x7b\x7b dartType(method.returns) \x7d\x7d>('\x7b\x7b method.name \x7d\x7d', params);",
  "\x7b% else %\x7d",
  "    await _rpc.call<dynamic>('\x7b\x7b method.name \x7d\x7d', params);",
  "\x7b% endif %\x7d",
  "  \x7d",
  "\x7b% endfor %\x7d",
  "\x7d"]

/-- The types. -/
def typesTemplate : String := Text.ofLines [
  "// Code generated by sdkgen. DO NOT EDIT.",
  "// Source: \x7b\x7b types.package \x7d\x7d",
  "",
  "import 'dart:typed_data';",
  "\x7b% for type in types.types %\x7d",
  "",
  "class \x7b\x7b dartClassName(type.name) \x7d\x7d \x7b",
  "\x7b% for field in type.fields %\x7d",
  "  final \x7b\x7b dartFieldType(field.type, field.optional, field.list) \x7d\x7d \x7b\x7b dartIdent(field.name) \x7d\x7d;",
  "\x7b% endfor %\x7d",
  "",
  "  const \x7b\x7b dartClassName(type.name) \x7d\x7d(\x7b",
  "\x7b% for field in type.fields %\x7d",
  "    \x7b\x7b \"\" if field.optional else \"required \" \x7d\x7dthis.\x7b\x7b dartIdent(field.name) \x7d\x7d,",
  "\x7b% endfor %\x7d",
  "  \x7d);",
  "",
  "  Map<String, dynamic> toJson() => <String, dynamic>\x7b",
  "\x7b% for field in type.fields %\x7d",
  "        '\x7b\x7b field.name \x7d\x7d': \x7b\x7b dartIdent(field.name) \x7d\x7d,",
  "\x7b% endfor %\x7d",
  "      \x7d;",
  "\x7d",
  "\x7b% endfor %\x7d",
  "\x7b% for enum in types.enums %\x7d",
  "",
  "enum \x7b\x7b dartClassName(enum.name) \x7d\x7d \x7b",
  "\x7b% for value in enum.values %\x7d",
  "  \x7b\x7b dartIdent(value.name) \x7d\x7d(\x7b\x7b literal(value.value) \x7d\x7d)\x7b\x7b \";\" if loop.last else \",\" \x7d\x7d",
  "\x7b% endfor %\x7d",
  "",
  "  final Object value;",
  "",
  "  const \x7b\x7b dartClassName(enum.name) \x7d\x7d(this.value);",
  "\x7d",
  "\x7b% endfor %\x7d"]

/-- The package manifest. -/
def pubspecTemplate : String := Text.ofLines [
  "name: \x7b\x7b package \x7d\x7d",
  "description: \x7b\x7b description if description else \"Generated client for \" ~ name \x7d\x7d",
  "version: \x7b\x7b version \x7d\x7d",
  "",
  "environment:",
  "  sdk: '>=3.0.0 <4.0.0'",
  "",
  "dependencies:",
  "  http: ^1.1.0",
  "",
  "dev_dependencies:",
  "  lints: ^3.0.0",
  "  test: ^1.24.0"]

/-- The JSON-RPC transport. -/
def transportTemplate : String := Text.ofLines [
  "// Code generated by sdkgen. DO NOT EDIT.",
  "",
  "import 'dart:convert';",
  "",
  "import 'package:http/http.dart' as http;",
  "",
  "/// Error returned by the server in a JSON-RPC response.",
  "class JsonRpcException implements Exception \x7b",
  "  final int code;",
  "  final String message;",
  "  final Object? data;",
  "",
  "  JsonRpcException(this.code, this.message, [this.data]);",
  "",
  "  @override",
  "  String toString() => 'JsonRpcException($code): $message';",
  "\x7d",
  "",
  "/// Minimal JSON-RPC 2.0 client over HTTP.",
  "class JsonRpcClient \x7b",
  "  final Uri _endpoint;",
  "  final http.Client _http;",
  "  int _nextId = 1;",
  "",
  "  JsonRpcClient(String endpoint, \x7bhttp.Client? client\x7d)",
  "      : _endpoint = Uri.parse(endpoint),",
  "        _http = client ?? http.Client();",
  "",
  "  Future<T> call<T>(String method, Map<String, dynamic> params) async \x7b",
  "    final body = jsonEncode(<String, dynamic>\x7b",
  "      'jsonrpc': '2.0',",
  "      'id': _nextId++,",
  "      'method': method,",
  "      'params': params,",
  "    \x7d);",
  "    final response = await _http.post(",
  "      _endpoint,",
  "      headers: const \x7b'Content-Type': 'application/json'\x7d,",
  "      body: body,",
  "    );",
  "    final decoded = jsonDecode(response.body) as Map<String, dynamic>;",
  "    final error = decoded['error'];",
  "    if (error != null) \x7b",
  "      throw JsonRpcException(",
  "        error['code'] as int,",
  "        error['message'] as String,",
  "        error['data'],",
  "      );",
  "    \x7d",
  "    return decoded['result'] as T;",
  "  \x7d",
  "",
  "  void close() => _http.close();",
  "\x7d"]

end ClientGen.Target.Dart

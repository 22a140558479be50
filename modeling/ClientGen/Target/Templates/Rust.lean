import ClientGen.Text.Lines

/-! # Rust templates

Templates of the files that make up a Rust client package.
-/

namespace ClientGen.Target.Rust

/-- The client. -/
def clientTemplate : String := Text.ofLines [
  "// Code generated by sdkgen. DO NOT EDIT.",
  "// Source: \x7b\x7b api.package \x7d\x7d (\x7b\x7b api.apiVersion \x7d\x7d)",
  "#![allow(unused_imports)]",
  "",
  "use serde_json::json;",
  "",
  "use crate::jsonrpc::\x7bJsonRpcClient, JsonRpcError\x7d;",
  "use crate::types::*;",
  "",
  "const API_PATH: &str = \"\x7b\x7b api.apiPath \x7d\x7d\";",
  "",
  "/// Client for the \x7b\x7b api.package \x7d\x7d API.",
  "#[derive(Debug, Clone)]",
  "pub struct \x7b\x7b rustClassName(moduleName) \x7d\x7dClient \x7b",
  "    rpc: JsonRpcClient,",
  "\x7d",
  "",
  "impl \x7b\x7b rustClassName(moduleName) \x7d\x7dClient \x7b",
  "    pub fn new(endpoint: &str) -> Self \x7b",
  "        let url = format!(\"\x7b\x7d\x7b\x7d\", endpoint.trim_end_matches('/'), API_PATH);",
  "        Self \x7b",
  "            rpc: JsonRpcClient::new(url),",
  "        \x7d",
  "    \x7d",
  "\x7b% for method in api.methods %\x7d",
  "",
  "\x7b% if method.description %\x7d",
  "\x7b\x7b docComment(method.description, \"    ///\") \x7d\x7d",
  "\x7b% endif %\x7d",
  "    pub async fn \x7b\x7b rustMethodName(method.name) \x7d\x7d(&self\x7b% for p in method.params %\x7d, \x7b\x7b rustFieldName(p.name) \x7d\x7d: \x7b\x7b rustType(p.type) \x7d\x7d\x7b% endfor %\x7d) -> Result<\x7b\x7b rustType(method.returns) if method.returns else \"()\" \x7d\x7d, JsonRpcError> \x7b",
  "        let params = json!(\x7b",
  "\x7b% for p in method.params %\x7d",
  "            \"\x7b\x7b p.name \x7d\x7d\": \x7b\x7b rustFieldName(p.name) \x7d\x7d,",
  "\x7b% endfor %\x7d",
  "        \x7d);",
  "\x7b% if method.returns %\x7d",
  "        self.rpc.call(\"\x7b\x7b method.name \x7d\x7d\", params).await",
  "\x7b% else %\x7d",
  "        self.rpc.call::<serde_json::Value>(\"\x7b\x7b method.name \x7d\x7d\", params).await?;",
  "        Ok(())",
  "\x7b% endif %\x7d",
  "    \x7d",
  "\x7b% endfor %\x7d",
  "\x7d"]

/-- The types. -/
def typesTemplate : String := Text.ofLines [
  "// Code generated by sdkgen. DO NOT EDIT.",
  "// Source: \x7b\x7b types.package \x7d\x7d",
  "#![allow(unused_imports)]",
  "",
  "use serde::\x7bDeserialize, Serialize\x7d;",
  "\x7b% for type in types.types %\x7d",
  "",
  "#[derive(Debug, Clone, PartialEq, Serialize, Deserialize)]",
  "pub struct \x7b\x7b rustClassName(type.name) \x7d\x7d \x7b",
  "\x7b% for field in type.fields %\x7d",
  "\x7b% if field.optional %\x7d",
  "    #[serde(rename = \"\x7b\x7b field.name \x7d\x7d\", default, skip_serializing_if = \"Option::is_none\")]",
  "\x7b% else %\x7d",
  "    #[serde(rename = \"\x7b\x7b field.name \x7d\x7d\")]",
  "\x7b% endif %\x7d",
  "    pub \x7b\x7b rustFieldName(field.name) \x7d\x7d: \x7b\x7b rustFieldType(field.type, field.optional, field.list) \x7d\x7d,",
  "\x7b% endfor %\x7d",
  "\x7d",
  "\x7b% endfor %\x7d",
  "\x7b% for enum in types.enums %\x7d",
  "",
  "#[derive(Debug, Clone, Copy, PartialEq, Eq, Hash)]",
  "pub enum \x7b\x7b rustClassName(enum.name) \x7d\x7d \x7b",
  "\x7b% for value in enum.values %\x7d",
  "    \x7b\x7b rustClassName(value.name) \x7d\x7d,",
  "\x7b% endfor %\x7d",
  "\x7d",
  "",
  "impl \x7b\x7b rustClassName(enum.name) \x7d\x7d \x7b",
  "    /// Wire value of this member.",
  "    pub fn value(self) -> serde_json::Value \x7b",
  "        match self \x7b",
  "\x7b% for value in enum.values %\x7d",
  "            Self::\x7b\x7b rustClassName(value.name) \x7d\x7d => serde_json::json!(\x7b\x7b literal(value.value) \x7d\x7d),",
  "\x7b% endfor %\x7d",
  "        \x7d",
  "    \x7d",
  "\x7d",
  "\x7b% endfor %\x7d"]

/-- The package manifest. -/
def cargoTemplate : String := Text.ofLines [
  "[package]",
  "name = \"\x7b\x7b package \x7d\x7d\"",
  "version = \"\x7b\x7b version \x7d\x7d\"",
  "edition = \"2021\"",
  "description = \"\x7b\x7b description if description else \"Generated client for \" ~ name \x7d\x7d\"",
  "",
  "[dependencies]",
  "chrono = \x7b version = \"0.4\", features = [\"serde\"] \x7d",
  "reqwest = \x7b version = \"0.12\", default-features = false, features = [\"json\", \"rustls-tls\"] \x7d",
  "serde = \x7b version = \"1\", features = [\"derive\"] \x7d",
  "serde_json = \"1\""]

/-- What the package exports. -/
def libraryTemplate : String := Text.ofLines [
  "// Code generated by sdkgen. DO NOT EDIT.",
  "",
  "pub mod client;",
  "pub mod jsonrpc;",
  "pub mod types;",
  "",
  "pub use client::*;",
  "pub use jsonrpc::\x7bJsonRpcClient, JsonRpcError\x7d;",
  "pub use types::*;"]

/-- The JSON-RPC transport. -/
def transportTemplate : String := Text.ofLines [
  "// Code generated by sdkgen. DO NOT EDIT.",
  "",
  "use std::fmt;",
  "use std::sync::atomic::\x7bAtomicU64, Ordering\x7d;",
  "use std::sync::Arc;",
  "",
  "use serde::de::DeserializeOwned;",
  "use serde::Deserialize;",
  "use serde_json::\x7bjson, Value\x7d;",
  "",
  "/// Failure of a JSON-RPC call.",
  "#[derive(Debug)]",
  "pub enum JsonRpcError \x7b",
  "    Transport(reqwest::Error),",
  "    Decode(serde_json::Error),",
  "    Server \x7b",
  "        code: i64,",
  "        message: String,",
  "        data: Option<Value>,",
  "    \x7d,",
  "\x7d",
  "",
  "impl fmt::Display for JsonRpcError \x7b",
  "    fn fmt(&self, f: &mut fmt::Formatter<'_>) -> fmt::Result \x7b",
  "        match self \x7b",
  "            Self::Transport(e) => write!(f, \"transport error: \x7be\x7d\"),",
  "            Self::Decode(e) => write!(f, \"invalid response: \x7be\x7d\"),",
  "            Self::Server \x7b code, message, .. \x7d => write!(f, \"server error (\x7bcode\x7d): \x7bmessage\x7d\"),",
  "        \x7d",
  "    \x7d",
  "\x7d",
  "",
  "impl std::error::Error for JsonRpcError \x7b\x7d",
  "",
  "impl From<reqwest::Error> for JsonRpcError \x7b",
  "    fn from(e: reqwest::Error) -> Self \x7b",
  "        Self::Transport(e)",
  "    \x7d",
  "\x7d",
  "",
  "impl From<serde_json::Error> for JsonRpcError \x7b",
  "    fn from(e: serde_json::Error) -> Self \x7b",
  "        Self::Decode(e)",
  "    \x7d",
  "\x7d",
  "",
  "#[derive(Deserialize)]",
  "struct RpcErrorBody \x7b",
  "    code: i64,",
  "    message: String,",
  "    #[serde(default)]",
  "    data: Option<Value>,",
  "\x7d",
  "",
  "#[derive(Deserialize)]",
  "struct RpcResponse \x7b",
  "    #[serde(default)]",
  "    result: Option<Value>,",
  "    #[serde(default)]",
  "    error: Option<RpcErrorBody>,",
  "\x7d",
  "",
  "/// Minimal JSON-RPC 2.0 client over HTTP.",
  "#[derive(Debug, Clone)]",
  "pub struct JsonRpcClient \x7b",
  "    endpoint: String,",
  "    http: reqwest::Client,",
  "    next_id: Arc<AtomicU64>,",
  "\x7d",
  "",
  "impl JsonRpcClient \x7b",
  "    pub fn new(endpoint: impl Into<String>) -> Self \x7b",
  "        Self \x7b",
  "            endpoint: endpoint.into(),",
  "            http: reqwest::Client::new(),",
  "            next_id: Arc::new(AtomicU64::new(1)),",
  "        \x7d",
  "    \x7d",
  "",
  "    pub async fn call<T: DeserializeOwned>(&self, method: &str, params: Value) -> Result<T, JsonRpcError> \x7b",
  "        let id = self.next_id.fetch_add(1, Ordering::Relaxed);",
  "        let body = json!(\x7b",
  "            \"jsonrpc\": \"2.0\",",
  "            \"id\": id,",
  "            \"method\": method,",
  "            \"params\": params,",
  "        \x7d);",
  "        let response: RpcResponse = self.http.post(&self.endpoint).json(&body).send().await?.json().await?;",
  "        if let Some(err) = response.error \x7b",
  "            return Err(JsonRpcError::Server \x7b",
  "                code: err.code,",
  "                message: err.message,",
  "                data: err.data,",
  "            \x7d);",
  "        \x7d",
  "        Ok(serde_json::from_value(response.result.unwrap_or(Value::Null))?)",
  "    \x7d",
  "\x7d"]

end ClientGen.Target.Rust
